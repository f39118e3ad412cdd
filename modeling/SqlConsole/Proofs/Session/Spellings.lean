import SqlConsole.Proofs.Session.Isolation
import SqlConsole.Proofs.Statement.Spellings

/-!
# Sessions and spellings

What a line does to a session with nothing pending is told by its request (`submit_of_request`), so
two spellings of one request do the same (`spellings_agree`).
-/

namespace SqlConsole

open Rendering (IsName blanks)

namespace Session

variable {s : Session}

theorem submit_of_request {request : Request} {line : Text} (idle : s.pending = none)
    (read : Statement.parse line = .ok (some ⟨line.trim, request⟩)) :
    ∃ (ready : Session) (dialect : Dialect), ready.database = s.database ∧
      ready.exited = s.exited ∧ ready.pending = none ∧
      ∀ catalog, (s.submit catalog line).2 = (ready.answer catalog request dialect).2 := by
  have given : Statement.parse (s.lineCommand line) = .ok (some ⟨line.trim, request⟩) := by
    unfold lineCommand commandOf
    rw [idle]
    split
    · rwa [Statement.parse, Text.trim_eq_self line.trim_isTrimmed]
    · exact read
  obtain ⟨ready, database, exited, pending, answered⟩ := submit_of_parse given
  exact ⟨{ ready with lastCommand := some line.trim }, _, database, exited, pending,
    fun catalog => by rw [answered]; rfl⟩

theorem answer_alike {catalog : Catalog} {u : Session} (database : s.database = u.database)
    (exited : s.exited = u.exited) (pending : s.pending = u.pending) (request : Request)
    (first second : Dialect) :
    (s.answer catalog request first).2.database = (u.answer catalog request second).2.database ∧
      (s.answer catalog request first).2.exited = (u.answer catalog request second).2.exited ∧
      (s.answer catalog request first).2.pending = (u.answer catalog request second).2.pending := by
  cases request with
  | useDatabase name =>
    unfold answer useDatabase
    dsimp only
    split
    · exact ⟨rfl, exited, pending⟩
    · exact ⟨database, exited, pending⟩
  | showTables =>
    unfold answer
    dsimp only
    split <;> split <;> exact ⟨database, exited, pending⟩
  | cancel => exact ⟨database, exited, rfl⟩
  | exit => exact ⟨database, rfl, rfl⟩
  | _ => exact ⟨database, exited, pending⟩

/-- Each spelling of a request is read as the request. So two spellings of it do the same to the
database, the exit and the pending lines of a session with nothing pending. A statement in words is
refused with a further token before its semicolon. -/
theorem spellings_agree (request : Request) :
    (∀ t, Spells request t → Statement.parse t = .ok (some ⟨t.trim, request⟩)) ∧
    (∀ t u, Spells request t → Spells request u → ∀ (catalog : Catalog) (s : Session),
      s.pending = none →
        (s.submit catalog t).2.database = (s.submit catalog u).2.database ∧
        (s.submit catalog t).2.exited = (s.submit catalog u).2.exited ∧
        (s.submit catalog t).2.pending = (s.submit catalog u).2.pending) ∧
    ∀ ws t more, IsWorded ws request → IsPhrase ws t → (∀ c ∈ more.head?, c.isWord = false) →
      (∃ token ∈ Token.scan more, token.kind ≠ .stop) → ∀ b ∈ blanks, ∀ e ∈ blanks,
        ∃ message token, Statement.parse (b ++ (t ++ more ++ [.char ';'] ++ e)) =
          .ok (some ⟨t ++ more ++ [.char ';'], .refused message token⟩) := by
  refine ⟨fun t => Statement.parse_of_spells, ?_, ?_⟩
  · intro t u first second catalog s idle
    obtain ⟨ready, dialect, database, exited, pending, answered⟩ :=
      submit_of_request idle (Statement.parse_of_spells first)
    obtain ⟨other, style, sameDatabase, sameExited, samePending, alsoAnswered⟩ :=
      submit_of_request idle (Statement.parse_of_spells second)
    rw [answered, alsoAnswered]
    exact answer_alike (database.trans sameDatabase.symm) (exited.trans sameExited.symm)
      (pending.trans samePending.symm) request dialect style
  · intro ws t more words phrase edge further b before e after
    exact Statement.parse_further words phrase edge further before after

/-- A command with a semicolon and a statement over two lines, and a text after the name. -/
theorem spellings_agree_useDatabase :
    Statement.parse "\\c log ;" = .ok (some ⟨"\\c log ;", .useDatabase "log"⟩) ∧
    (submit ⟨[⟨"log", []⟩]⟩ "\\c log ;" {}).2.database =
      (submit ⟨[⟨"log", []⟩]⟩ " Use\nlog; " {}).2.database ∧
    ∃ message token, Statement.parse " Use\nlog''; " =
      .ok (some ⟨"Use\nlog'';", .refused message token⟩) := by
  have allBlank : ∀ b : Text, b.all CodePoint.isBlank = true → b ∈ blanks :=
    fun b all => List.all_eq_true.mp all
  have blank : Text.ofString " " ∈ blanks := allBlank " " (by decide)
  have empty : [] ∈ blanks := allBlank [] rfl
  have named : IsName "log" := by decide +kernel
  have space : Text.ofString " " ∈ Rendering.gap := ⟨blank, by decide⟩
  have command : IsPhrase ["\\c", "log"] "\\c log" := .next "\\c" space (.last "log")
  have newline : Text.ofString "\n" ∈ Rendering.gap := ⟨allBlank "\n" (by decide), by decide⟩
  have words : IsWorded ["Use", "log"] (.useDatabase "log") :=
    .use ⟨"Use".toList, rfl, by decide⟩ named
  have statement : IsPhrase ["Use", "log"] "Use\nlog" := .next "Use" newline (.last "log")
  have first : Spells (.useDatabase "log") "\\c log ;" :=
    .command (.use named) command empty (.inr ⟨" ", blank, _, rfl, rfl⟩) empty
  have second : Spells (.useDatabase "log") " Use\nlog; " :=
    .statement words statement blank ⟨[], empty, _, rfl, rfl⟩ blank
  obtain ⟨read, same, refused⟩ := spellings_agree (.useDatabase "log")
  exact ⟨read _ first, (same _ _ first second _ {} rfl).1,
    refused _ _ "''" words statement (by decide) (by decide +kernel) " " blank " " blank⟩

end Session

end SqlConsole
