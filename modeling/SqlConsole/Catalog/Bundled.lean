import SqlConsole.Catalog

/-!
# The bundled catalog

The catalog that is served unless another dataset is given: a career and what is done beside it.
-/

namespace SqlConsole.Catalog

def engineers : Table where
  name := "engineers"
  columns := ["id", "name", "years_of_experience", "current_position"]
  rows := [
    [.integer 1, .text "山田太郎", .integer 8, .text "シニアエンジニア"],
    [.integer 2, .text "鈴木花子", .integer 5, .text "フルスタックエンジニア"]]
  columns_distinct := by decide
  rows_aligned := by decide

def skills : Table where
  name := "skills"
  columns := ["id", "engineer_id", "skill_name", "years_used"]
  rows := [
    [.integer 1, .integer 1, .text "Python", .integer 5],
    [.integer 2, .integer 1, .text "JavaScript", .integer 3],
    [.integer 3, .integer 2, .text "Ruby", .integer 4]]
  columns_distinct := by decide
  rows_aligned := by decide

def projects : Table where
  name := "projects"
  columns := ["id", "engineer_id", "project_name", "description", "duration_months"]
  rows := [
    [.integer 1, .integer 1, .text "顧客管理システム", .text "Railsによる社内システム開発", .integer 12],
    [.integer 2, .integer 2, .text "ECサイト", .text "React/NodeによるEC開発", .integer 8]]
  columns_distinct := by decide
  rows_aligned := by decide

def games : Table where
  name := "games"
  columns := ["id", "title", "platform", "genre", "play_time", "completion_status"]
  rows := [
    [.integer 1, .text "ゼルダの伝説 ティアーズ オブ ザ キングダム", .text "Nintendo Switch", .text "アクションRPG", .integer 120, .text "クリア済み"],
    [.integer 2, .text "ファイナルファンタジーXVI", .text "PS5", .text "RPG", .integer 85, .text "メインクリア"],
    [.integer 3, .text "スプラトゥーン3", .text "Nintendo Switch", .text "シューター", .integer 200, .text "進行中"]]
  columns_distinct := by decide
  rows_aligned := by decide

def anime : Table where
  name := "anime"
  columns := ["id", "title", "genre", "episodes", "status", "rating"]
  rows := [
    [.integer 1, .text "葬送のフリーレン", .text "ファンタジー", .integer 28, .text "視聴中", .integer 9],
    [.integer 2, .text "チェンソーマン", .text "アクション", .integer 12, .text "視聴完了", .integer 8],
    [.integer 3, .text "推しの子", .text "ドラマ", .integer 11, .text "視聴完了", .integer 9]]
  columns_distinct := by decide
  rows_aligned := by decide

def books : Table where
  name := "books"
  columns := ["id", "title", "author", "genre", "format", "status"]
  rows := [
    [.integer 1, .text "三体", .text "劉慈欣", .text "SF", .text "電子書籍", .text "読了"],
    [.integer 2, .text "響け！ユーフォニアム", .text "武田綾乃", .text "青春小説", .text "文庫", .text "読了"],
    [.integer 3, .text "ソフトウェアデザイン 2024年1月号", .text "技術評論社", .text "技術書", .text "雑誌", .text "読書中"]]
  columns_distinct := by decide
  rows_aligned := by decide

def bundled : Catalog where
  databases := [
    ⟨"career_db", [engineers, skills, projects]⟩,
    ⟨"private_db", [games, anime, books]⟩]

end SqlConsole.Catalog
