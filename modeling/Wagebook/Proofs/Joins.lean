import Mathlib.Data.List.Dedup
import Wagebook.Proofs.Dialogue
import Wagebook.Proofs.Reports

/-!
The query that tallies the employees, and what it means. It groups the facts of a period by user,
table by table, and joins the groups to the users; the tables in memory are searched user by user
instead. Both come to the same.
-/

namespace Wagebook

/-- A row of a table: values by column. A column that it lacks is `NULL`. -/
abbrev TableRow := List (String × Cell)

def TableRow.read (row : TableRow) (column : String) : Cell := (row.lookup column).getD .null

/-- A row of some tables that are joined, the row of each under its label. -/
abbrev JoinedRow := List (String × TableRow)

def JoinedRow.read (row : JoinedRow) (label column : String) : Cell :=
  TableRow.read ((row.lookup label).getD []) column

namespace Cell

/-- Whether `=` holds of two numbers. It does not hold of `NULL`. -/
def equals (a b : Cell) : Bool :=
  match a.int?, b.int? with
  | some m, some n => m = n
  | _, _ => false

/-- Whether `ORDER BY` lets one number stand before another. `NULL` comes first. -/
def upTo (a b : Cell) : Prop :=
  match a.int?, b.int? with
  | none, _ => True
  | some _, none => False
  | some m, some n => m ≤ n

/-- `COALESCE(_, 0)`. -/
def orZero : Cell → Cell
  | .null => .int 0
  | value => value

theorem equals_of_int? {b : Cell} {n : Int} (h : b.int? = some n) (a : Cell) :
    a.equals b = decide (a.int? = some n) := by
  unfold equals
  rw [h]
  cases a.int? <;> simp

theorem equals_of_null {b : Cell} (h : b.int? = none) (a : Cell) : a.equals b = false := by
  unfold equals
  rw [h]
  cases a.int? <;> rfl

end Cell

/-- What a query makes of the rows of a group. -/
inductive Aggregate
  | count
  | sum (column : String)

namespace Aggregate

def text : Aggregate → String
  | count => "COUNT(*)"
  | sum column => "SUM(" ++ column ++ ")"

/-- A sum leaves out what is `NULL`, and of nothing there is no sum. -/
def of : Aggregate → List TableRow → Cell
  | count, rows => .int rows.length
  | sum column, rows =>
    match rows.filterMap fun row => (row.read column).int? with
    | [] => .null
    | values => .int values.sum

/-- `CAST(_ AS SIGNED)`. A count is a signed number already; a sum is a decimal one, which is cut
off at the ends of the 64 bits. -/
def signed : Aggregate → Cell → Cell
  | sum _, .int n => .int (max (-0x8000000000000000) (min n 0x7fffffffffffffff))
  | _, value => value

end Aggregate

/-- A common table expression: it groups the rows that a table has of a period by user. -/
structure Grouping where
  name : String
  label : String
  table : String
  aggregate : Aggregate
  result : String
  period : Cell

/-- What a database holds under the name of a table. -/
abbrev Database := String → List TableRow

namespace Grouping

def text (g : Grouping) : String :=
  g.name ++ " AS ( SELECT user_id, " ++ g.aggregate.text ++ " AS " ++ g.result ++ " FROM " ++
    g.table ++ " WHERE period_id = ? GROUP BY user_id )"

def columnText (g : Grouping) : String :=
  "CAST(COALESCE(" ++ g.label ++ "." ++ g.result ++ ", 0) AS SIGNED) AS " ++ g.result

def joinText (g : Grouping) : String :=
  "LEFT JOIN " ++ g.name ++ " " ++ g.label ++ " ON " ++ g.label ++ ".user_id = u.id"

/-- The rows that are grouped. -/
def facts (db : Database) (g : Grouping) : List TableRow :=
  (db g.table).filter fun row => (row.read "period_id").equals g.period

/-- The rows of one group; `NULL` has a group of its own. -/
def members (db : Database) (g : Grouping) (user : Option Int) : List TableRow :=
  (g.facts db).filter fun row => (row.read "user_id").int? = user

def group (db : Database) (g : Grouping) (user : Option Int) : TableRow :=
  [("user_id", user.elim .null .int), (g.result, g.aggregate.of (g.members db user))]

def groups (db : Database) (g : Grouping) : List TableRow :=
  ((g.facts db).map fun row => (row.read "user_id").int?).dedup.map (g.group db)

end Grouping

/-- `LEFT JOIN`: a row that matches none is joined to a row of `NULL`s. -/
def leftJoin (label : String) (right : List TableRow) (on : JoinedRow → Bool)
    (left : List JoinedRow) : List JoinedRow :=
  left.flatMap fun row =>
    match (right.map fun found => row ++ [(label, found)]).filter on with
    | [] => [row ++ [(label, [])]]
    | joined => joined

namespace EmployeeQuery

/-- A query that joins groups to the employees. -/
def text (gs : List Grouping) : String :=
  "WITH " ++ ", ".intercalate (gs.map Grouping.text) ++
    " SELECT u.id AS user_id, u.salary AS base_salary, " ++
    ", ".intercalate (gs.map Grouping.columnText) ++ " FROM users u " ++
    " ".intercalate (gs.map Grouping.joinText) ++ " WHERE u.is_admin = FALSE ORDER BY u.id"

def statement (gs : List Grouping) : Statement := .query (text gs) (gs.map Grouping.period)

def joined (db : Database) (gs : List Grouping) : List JoinedRow :=
  gs.foldl
    (fun rows g => leftJoin g.label (g.groups db)
      (fun row => (row.read g.label "user_id").equals (row.read "u" "id")) rows)
    ((db "users").map fun user => [("u", user)])

def selected (db : Database) (gs : List Grouping) : List JoinedRow :=
  (joined db gs).filter fun row => (row.read "u" "is_admin").equals (.bool false)

def output (gs : List Grouping) (row : JoinedRow) : List Cell :=
  row.read "u" "id" :: row.read "u" "salary" ::
    gs.map fun g => g.aggregate.signed (row.read g.label g.result).orZero

/-- What a database may answer: the selected rows in some order by id. -/
def Answers (db : Database) (gs : List Grouping) (rows : List (List Cell)) : Prop :=
  ∃ ordered : List JoinedRow, ordered.Perm (selected db gs) ∧
    ordered.Pairwise (fun row row' => (row.read "u" "id").upTo (row'.read "u" "id")) ∧
    rows = ordered.map (output gs)

def presence (period : Nat) : Grouping :=
  ⟨"attendance_count", "a", "attendances", .count, "present_days", .int period⟩

def overtime (period : Nat) : Grouping :=
  ⟨"overtime_sum", "o", "overtimes", .sum "hours", "overtime_hours", .int period⟩

def reimbursement (period : Nat) : Grouping :=
  ⟨"reimbursement_sum", "r", "reimbursements", .sum "amount", "reimbursement_total", .int period⟩

/-- What `Talk.talliesQuery` joins. -/
def tallied (period : Nat) : List Grouping :=
  [presence period, overtime period, reimbursement period]

theorem distinct_tallied (period : Nat) : ("u" :: (tallied period).map Grouping.label).Nodup := by
  change ["u", "a", "o", "r"].Nodup
  decide

theorem text_tallied (period : Nat) : text (tallied period) = Talk.talliesText := by
  rw [show text (tallied period) = text (tallied 0) from rfl]
  decide +kernel

theorem statement_tallied (period : Nat) :
    statement (tallied period) = Talk.talliesQuery period := by
  rw [statement, text_tallied]
  rfl

end EmployeeQuery

namespace Grouping

variable {db : Database} {g : Grouping}

/-- The group that is joined to a user. -/
def groupOf (db : Database) (g : Grouping) (user : Cell) : Option TableRow :=
  (g.groups db).find? fun row => (row.read "user_id").equals user

theorem equals_group {user : Cell} {n : Int} (id : user.int? = some n) :
    (fun row : TableRow => (row.read "user_id").equals user) ∘ g.group db = (· == some n) := by
  funext key
  rw [Function.comp, Cell.equals_of_int? id, beq_eq_decide]
  cases key <;> rfl

/-- There are not two groups of one user. -/
theorem filter_groups (user : Cell) :
    ((g.groups db).filter fun row => (row.read "user_id").equals user) =
      (g.groupOf db user).toList := by
  have most : ((g.groups db).filter fun row => (row.read "user_id").equals user).length ≤ 1 := by
    cases id : user.int? with
    | none => simp [Cell.equals_of_null id]
    | some n =>
        rw [groups, List.filter_map, List.length_map, equals_group id,
          ← List.countP_eq_length_filter]
        exact List.nodup_iff_count_le_one.mp (List.nodup_dedup _) (some n)
  rw [groupOf, ← List.head?_filter]
  generalize (g.groups db).filter _ = found at most
  match found, most with
  | [], _ => rfl
  | [row], _ => rfl

/-- Whether a user has a group or not, he has the result of his rows. -/
theorem orZero_groupOf (other : g.result ≠ "user_id") (n : Int) :
    (((g.groupOf db (.int n)).getD []).read g.result).orZero =
      (g.aggregate.of (g.members db (some n))).orZero := by
  rw [groupOf, groups, List.find?_map, equals_group rfl]
  cases found : List.find? _ _ with
  | none =>
      -- nobody is counted for a user without rows
      have none : g.members db (some n) = [] := by
        rw [List.find?_eq_none] at found
        rw [members, List.filter_eq_nil_iff]
        intro row mem user
        refine found (some n) ?_ (beq_self_eq_true _)
        rw [List.mem_dedup, List.mem_map]
        exact ⟨row, mem, of_decide_eq_true user⟩
      rw [none]
      cases g.aggregate <;> rfl
  | some user =>
      have same : user = some n := by simpa using List.find?_some found
      rw [same, Option.map_some, Option.getD_some]
      simp [TableRow.read, group, List.lookup_cons, beq_eq_false_iff_ne.mpr other]

end Grouping

theorem JoinedRow.read_append_of_lookup {row : JoinedRow} {label : String} {found : TableRow}
    (h : row.lookup label = some found) (more : JoinedRow) (column : String) :
    JoinedRow.read (row ++ more) label column = found.read column := by
  rw [read, List.lookup_append, h]
  rfl

theorem JoinedRow.read_snoc {row : JoinedRow} {label : String} (fresh : row.lookup label = none)
    (found : TableRow) (column : String) :
    JoinedRow.read (row ++ [(label, found)]) label column = found.read column := by
  rw [read, List.lookup_append, fresh, Option.none_or, List.lookup_cons_self]
  rfl

/-- A join with groups adds one row to each row. -/
theorem leftJoin_groups {db : Database} {g : Grouping} {row : TableRow → JoinedRow}
    (user : ∀ u, (row u).lookup "u" = some u) (fresh : ∀ u, (row u).lookup g.label = none)
    (users : List TableRow) :
    leftJoin g.label (g.groups db)
        (fun row => (row.read g.label "user_id").equals (row.read "u" "id")) (users.map row) =
      users.map fun u => row u ++ [(g.label, (g.groupOf db (u.read "id")).getD [])] := by
  rw [leftJoin, List.flatMap_map, List.map_eq_flatMap]
  apply List.flatMap_congr
  intro u _
  have on : (fun row : JoinedRow => (row.read g.label "user_id").equals (row.read "u" "id")) ∘
      (fun found => row u ++ [(g.label, found)]) =
        fun found => (found.read "user_id").equals (u.read "id") := by
    funext found
    rw [Function.comp, JoinedRow.read_snoc (fresh u), JoinedRow.read_append_of_lookup (user u)]
  rw [List.filter_map, on, Grouping.filter_groups]
  cases g.groupOf db (u.read "id") <;> rfl

namespace EmployeeQuery

variable {db : Database} {gs : List Grouping}

/-- A user, and what is joined to him. -/
def joinedRow (db : Database) (gs : List Grouping) (user : TableRow) : JoinedRow :=
  ("u", user) :: gs.map fun g => (g.label, (g.groupOf db (user.read "id")).getD [])

theorem lookup_joinedRow {label : String} (fresh : label ∉ "u" :: gs.map Grouping.label)
    (user : TableRow) : (joinedRow db gs user).lookup label = none := by
  rw [List.lookup_eq_none_iff]
  intro entry mem
  obtain rfl | mem := List.mem_cons.mp mem
  · simpa using List.ne_of_not_mem_cons fresh
  · obtain ⟨g, listed, rfl⟩ := List.mem_map.mp mem
    have other : label ≠ g.label := fun same =>
      fresh (List.mem_cons_of_mem _ (same ▸ List.mem_map_of_mem listed))
    simpa using other

/-- Under different labels, the joins neither lose a user nor double one. -/
theorem joined_eq (distinct : ("u" :: gs.map Grouping.label).Nodup) :
    joined db gs = (db "users").map (joinedRow db gs) := by
  induction gs using List.reverseRecOn with
  | nil => rfl
  | append_singleton gs g ih =>
      rw [List.map_append, ← List.cons_append, List.map_singleton, List.nodup_append] at distinct
      obtain ⟨distinct, -, apart⟩ := distinct
      have fresh : g.label ∉ "u" :: gs.map Grouping.label := fun mem =>
        apart _ mem _ List.mem_cons_self rfl
      rw [joined, List.foldl_append, ← joined, ih distinct, List.foldl_cons, List.foldl_nil,
        leftJoin_groups (fun _ => rfl) (lookup_joinedRow fresh)]
      simp [joinedRow]

end EmployeeQuery

def User.row (u : User) : TableRow :=
  [("id", .int u.id), ("username", .text u.username), ("password_hash", .text u.passwordHash),
    ("full_name", .text u.fullName), ("salary", .int u.salary), ("is_admin", .bool u.isAdmin),
    ("created_at", .stamp u.createdAt.toMicros), ("updated_at", .stamp u.updatedAt.toMicros)]

def Attendance.row (a : Attendance) : TableRow :=
  [("id", .int a.id), ("user_id", .int a.user), ("period_id", .int a.period),
    ("date", .date a.date), ("created_at", .stamp a.createdAt.toMicros),
    ("updated_at", .stamp a.updatedAt.toMicros)]

def Overtime.row (o : Overtime) : TableRow :=
  [("id", .int o.id), ("user_id", .int o.user), ("period_id", .int o.period),
    ("date", .date o.date), ("hours", .int o.hours), ("created_at", .stamp o.createdAt.toMicros),
    ("updated_at", .stamp o.updatedAt.toMicros)]

def Reimbursement.row (r : Reimbursement) : TableRow :=
  [("id", .int r.id), ("user_id", .int r.user), ("period_id", .int r.period),
    ("amount", .int r.amount), ("description", .text r.description),
    ("created_at", .stamp r.createdAt.toMicros), ("updated_at", .stamp r.updatedAt.toMicros)]

/-- The columns that the query selects. -/
def Tally.row (tally : Tally) : List Cell :=
  [.int tally.user, .int tally.baseSalary, .int tally.presentDays, .int tally.overtimeHours,
    .int tally.reimbursementTotal]

theorem Tally.tally?_row (tally : Tally) : Row.tally? tally.row = some tally := by
  simp [row, Row.tally?, Cell.nat?, Cell.int?]

/-- A database with the users and the facts of some tables. -/
def Tables.database (t : Tables) : Database
  | "users" => t.users.map User.row
  | "attendances" => t.attendances.map Attendance.row
  | "overtimes" => t.overtimes.map Overtime.row
  | "reimbursements" => t.reimbursements.map Reimbursement.row
  | _ => []

namespace Aggregate

theorem orZero_count (rows : List TableRow) : (count.of rows).orZero = .int rows.length := rfl

theorem orZero_sum {row : α → TableRow} {column : String} {value : α → Int}
    (reads : ∀ a, (row a).read column = .int (value a)) (rows : List α) :
    ((sum column).of (rows.map row)).orZero = .int (rows.map value).sum := by
  have values : (rows.map row).filterMap (fun row => (row.read column).int?) = rows.map value := by
    rw [List.filterMap_map, ← List.filterMap_eq_map]
    congr 1
    funext a
    rw [Function.comp, reads]
    rfl
  rw [of, values]
  cases rows <;> rfl

theorem signed_sum {column : String} {n : Int} (fits : Amount.Fits n) :
    (sum column).signed (.int n) = .int n := by
  unfold Amount.Fits at fits
  simp only [signed]
  congr 1
  omega

end Aggregate

/-- What the query shows of a user's group. -/
def Grouping.shown (db : Database) (g : Grouping) (user : Cell) : Cell :=
  g.aggregate.signed (((g.groupOf db user).getD []).read g.result).orZero

/-- The grouping is about these facts in a period. -/
structure Grouping.About (db : Database) (g : Grouping) (facts : List α) (row : α → TableRow)
    (user period : α → Nat) (window : Nat) : Prop where
  stored : db g.table = facts.map row
  ofUser : ∀ a, (row a).read "user_id" = .int (user a)
  ofPeriod : ∀ a, (row a).read "period_id" = .int (period a)
  asked : g.period = .int window
  other : g.result ≠ "user_id"

namespace Grouping.About

variable {db : Database} {g : Grouping} {facts : List α} {row : α → TableRow}
  {user period : α → Nat} {window : Nat}

theorem members_eq (h : g.About db facts row user period window) (id : Nat) :
    g.members db (some (id : Int)) =
      (facts.filter fun a => user a = id ∧ period a = window).map row := by
  rw [members, Grouping.facts, h.stored, List.filter_filter, List.filter_map]
  congr 1
  apply List.filter_congr
  intro a _
  rw [Function.comp, h.ofUser, h.ofPeriod, h.asked, Cell.equals_of_int? rfl]
  simp [Cell.int?]

theorem shown_count (h : g.About db facts row user period window) (counts : g.aggregate = .count)
    (id : Nat) : g.shown db (.int id) =
      .int (facts.filter fun a => user a = id ∧ period a = window).length := by
  rw [shown, orZero_groupOf h.other, h.members_eq, counts, Aggregate.orZero_count,
    List.length_map]
  rfl

theorem shown_sum (h : g.About db facts row user period window) {column : String}
    (sums : g.aggregate = .sum column) {amount : α → Int}
    (reads : ∀ a, (row a).read column = .int (amount a))
    (few : ((facts.filter (period · = window)).map (amount · |>.natAbs)).sum ≤ 0x7fffffffffffffff)
    (id : Nat) : g.shown db (.int id) =
      .int (Tables.total ((facts.filter fun a => user a = id ∧ period a = window).map amount)) := by
  have own : (facts.filter fun a => user a = id ∧ period a = window) =
      (facts.filter (period · = window)).filter (user · = id) := by
    simp [List.filter_filter]
  have fits := own ▸ Amount.fits_sum_filter few (user · = id)
  rw [shown, orZero_groupOf h.other, h.members_eq, sums, Aggregate.orZero_sum reads,
    Aggregate.signed_sum fits]
  exact congrArg Cell.int (Amount.wrapped_eq fits).symm

end Grouping.About

namespace EmployeeQuery

variable {t : Tables} {period : Nat}

theorem about_presence (t : Tables) (period : Nat) : (presence period).About t.database
    t.attendances Attendance.row (·.user) (·.period) period :=
  ⟨rfl, fun _ => rfl, fun _ => rfl, rfl, by simp [presence]⟩

theorem about_overtime (t : Tables) (period : Nat) : (overtime period).About t.database
    t.overtimes Overtime.row (·.user) (·.period) period :=
  ⟨rfl, fun _ => rfl, fun _ => rfl, rfl, by simp [overtime]⟩

theorem about_reimbursement (t : Tables) (period : Nat) : (reimbursement period).About t.database
    t.reimbursements Reimbursement.row (·.user) (·.period) period :=
  ⟨rfl, fun _ => rfl, fun _ => rfl, rfl, by simp [reimbursement]⟩

theorem selected_tallied (t : Tables) (period : Nat) :
    selected t.database (tallied period) =
      (t.users.filter (!·.isAdmin)).map fun u => joinedRow t.database (tallied period) u.row := by
  rw [selected, joined_eq (distinct_tallied period),
    show t.database "users" = t.users.map User.row from rfl, List.map_map, List.filter_map]
  congr 1
  apply List.filter_congr
  intro u _
  change (Cell.bool u.isAdmin).equals (.bool false) = !u.isAdmin
  cases u.isAdmin <;> rfl

section Fitting

variable
  (hours : ((t.overtimes.filter (·.period = period)).map (·.hours.natAbs)).sum ≤
    0x7fffffffffffffff)
  (amounts : ((t.reimbursements.filter (·.period = period)).map (·.amount.natAbs)).sum ≤
    0x7fffffffffffffff)
include hours amounts

/-- The row of a user is his tally. -/
theorem output_tallied (u : User) :
    output (tallied period) (joinedRow t.database (tallied period) u.row) =
      (t.tally period u).row := by
  change [.int u.id, .int u.salary, (presence period).shown t.database (.int u.id),
    (overtime period).shown t.database (.int u.id),
    (reimbursement period).shown t.database (.int u.id)] = _
  rw [(about_presence t period).shown_count rfl,
    (about_overtime t period).shown_sum rfl (fun _ => rfl) hours,
    (about_reimbursement t period).shown_sum rfl (fun _ => rfl) amounts]
  rfl

/-- No two users share an id, so only one order is right. -/
theorem answers_tallied (users : (t.users.map (·.id)).Nodup) (rows : List (List Cell)) :
    Answers t.database (tallied period) rows ↔ rows = (t.tallies period).map Tally.row := by
  let employees := t.users.filter (!·.isAdmin)
  let joined (u : User) := joinedRow t.database (tallied period) u.row
  let byId := (employees.mergeSort (·.id ≤ ·.id)).map joined
  have output : byId.map (output (tallied period)) = (t.tallies period).map Tally.row := by
    rw [Tables.tallies, List.map_map, List.map_map]
    exact List.map_congr_left fun u _ => output_tallied hours amounts u
  have order (u v : User) :
      ((joined u).read "u" "id").upTo ((joined v).read "u" "id") ↔ u.id ≤ v.id := Int.ofNat_le
  have sorted : byId.Pairwise fun row row' => (row.read "u" "id").upTo (row'.read "u" "id") := by
    have ids := sortedLE_mergeSort_key (·.id) employees
    exact List.pairwise_map.mpr ((List.pairwise_map.mp ids.pairwise).imp (order _ _).mpr)
  have perm : byId.Perm (selected t.database (tallied period)) :=
    selected_tallied t period ▸ (List.mergeSort_perm employees _).map joined
  constructor
  · rintro ⟨ordered, same, inOrder, rfl⟩
    have unique : ordered = byId := by
      refine (same.trans perm.symm).eq_of_pairwise (fun row row' mem mem' le ge => ?_) inOrder
        sorted
      have employee {row : JoinedRow} (mem : row ∈ selected t.database (tallied period)) :
          ∃ u ∈ t.users, joined u = row := by
        rw [selected_tallied] at mem
        obtain ⟨u, stored, rfl⟩ := List.mem_map.mp mem
        exact ⟨u, List.mem_of_mem_filter stored, rfl⟩
      obtain ⟨u, stored, rfl⟩ := employee (same.mem_iff.mp mem)
      obtain ⟨v, stored', rfl⟩ := employee (perm.mem_iff.mp mem')
      have id : u.id = v.id := Nat.le_antisymm ((order u v).mp le) ((order v u).mp ge)
      rw [List.inj_on_of_nodup_map users stored stored' id]
    rw [unique, output]
  · rintro rfl
    exact ⟨byId, perm, sorted, output.symm⟩

end Fitting

end EmployeeQuery

theorem Talk.mapM_readRow_tallies (tallies : List Tally) :
    (tallies.map Tally.row).mapM (readRow Row.tally?) = .ok tallies := by
  induction tallies with
  | nil => rfl
  | cons tally tallies ih =>
      rw [List.map_cons, List.mapM_cons, readRow, Tally.tally?_row, ih]
      rfl

/-- A server that answers tallies is believed. -/
theorem Talk.answer_tallies {server : Server} {tallies : List Tally} {replies : List ServerReply}
    (due : server.replies = .rows (tallies.map Tally.row) :: replies) (period : Nat) :
    Store.answer (.tallies period) (server, ()) =
      (.ok tallies, { server with replies, sent := server.sent ++ [talliesQuery period] }, ()) := by
  have heard : server.hear (talliesQuery period) =
      (.ok (.rows (tallies.map Tally.row)),
        { server with replies, sent := server.sent ++ [talliesQuery period] }) := by
    change (Server.send (talliesQuery period)).run server = _
    simp only [Server.send, ExceptT.run, Server.record, due]
  have said := sends_rows Row.tally? (fun server => rfl : ∀ server : Server,
    (Server.send (talliesQuery period)).run server = server.hear (talliesQuery period)) server
  change (((Talk.tallies period).run server).1, ((Talk.tallies period).run server).2, ()) = _
  rw [Talk.tallies, said, heard]
  simp only [Except.bind, ServerReply.found, mapM_readRow_tallies]

/-- What the tables in memory answer is what the query means. Users have different ids, and what a
period holds of hours and of amounts stays within the 64 bits that are kept of a sum; otherwise the
tables hold whatever they may. A database with the same tables can answer the query with the tallies
only, row for row and in their order; and then each of the two stores answers the same to its
caller. -/
theorem Tables.tallies_as_queried (t : Tables) (period : Nat) (users : (t.users.map (·.id)).Nodup)
    (hours : ((t.overtimes.filter (·.period = period)).map (·.hours.natAbs)).sum ≤
      0x7fffffffffffffff)
    (amounts : ((t.reimbursements.filter (·.period = period)).map (·.amount.natAbs)).sum ≤
      0x7fffffffffffffff) :
    Talk.talliesQuery period = EmployeeQuery.statement (EmployeeQuery.tallied period) ∧
    (∀ rows, EmployeeQuery.Answers t.database (EmployeeQuery.tallied period) rows ↔
      rows = (t.tallies period).map Tally.row) ∧
    (∀ (memory : Memory) (switches : Switches),
      Store.answer (.tallies period) (memory, Memory.WorkingCopy.mk t switches) =
        (.ok (t.tallies period), memory, Memory.WorkingCopy.mk t switches)) ∧
    ∀ (server : Server) rows replies, server.replies = .rows rows :: replies →
      EmployeeQuery.Answers t.database (EmployeeQuery.tallied period) rows →
      Store.answer (.tallies period) (server, ()) =
        (.ok (t.tallies period),
          { server with replies, sent := server.sent ++ [Talk.talliesQuery period] }, ()) := by
  have means := EmployeeQuery.answers_tallied hours amounts users
  refine ⟨(EmployeeQuery.statement_tallied period).symm, means, fun _ _ => rfl, ?_⟩
  intro server rows replies due answers
  obtain rfl := (means rows).mp answers
  exact Talk.answer_tallies due period

namespace Tables

/-- The employee with the higher id is stored first and has handed in nothing for the week. An
admin, somebody unknown and another week have facts as well, and those of the other week come to
more than is kept of a sum. -/
def mixed : Tables where
  users :=
    [⟨3, "zoe", "", "zoe", 900, false, .epoch, .epoch⟩,
      ⟨1, "root", "", "root", 0, true, .epoch, .epoch⟩,
      ⟨2, "ann", "", "ann", 700, false, .epoch, .epoch⟩]
  attendances :=
    [⟨11, 2, 7, .monday, .epoch, .epoch⟩, ⟨12, 1, 7, .monday, .epoch, .epoch⟩,
      ⟨13, 9, 7, .monday, .epoch, .epoch⟩, ⟨14, 2, 8, .monday, .epoch, .epoch⟩,
      ⟨15, 2, 7, .sunday, .epoch, .epoch⟩]
  overtimes := [⟨16, 2, 7, .monday, 2, .epoch, .epoch⟩, ⟨17, 9, 7, .monday, 3, .epoch, .epoch⟩]
  reimbursements :=
    [⟨18, 2, 7, 30, "taxi", .epoch, .epoch⟩,
      ⟨19, 2, 8, 0x7fffffffffffffff, "yacht", .epoch, .epoch⟩,
      ⟨20, 3, 8, 40, "taxi", .epoch, .epoch⟩, ⟨21, 2, 7, 12, "lunch", .epoch, .epoch⟩]

theorem tallies_mixed : mixed.tallies 7 = [⟨2, 700, 2, 2, 42⟩, ⟨3, 900, 0, 0, 0⟩] := by
  have sorted {u v : User} (h : v.id < u.id) : [u, v].mergeSort (·.id ≤ ·.id) = [v, u] := by
    simp [List.mergeSort, h]
  change ([_, _].mergeSort (·.id ≤ ·.id)).map (mixed.tally 7) = _
  rw [sorted (by decide)]
  decide +kernel

theorem mixed_as_queried :
    (mixed.users.map (·.id)).Nodup ∧
    ((mixed.overtimes.filter (·.period = 7)).map (·.hours.natAbs)).sum ≤ 0x7fffffffffffffff ∧
    ((mixed.reimbursements.filter (·.period = 7)).map (·.amount.natAbs)).sum ≤
      0x7fffffffffffffff ∧
    ∀ rows, EmployeeQuery.Answers mixed.database (EmployeeQuery.tallied 7) rows ↔
      rows = [[.int 2, .int 700, .int 2, .int 2, .int 42],
        [.int 3, .int 900, .int 0, .int 0, .int 0]] := by
  have users : (mixed.users.map (·.id)).Nodup := by decide
  have hours : ((mixed.overtimes.filter (·.period = 7)).map (·.hours.natAbs)).sum ≤
      0x7fffffffffffffff := by decide
  have amounts : ((mixed.reimbursements.filter (·.period = 7)).map (·.amount.natAbs)).sum ≤
      0x7fffffffffffffff := by decide
  refine ⟨users, hours, amounts, fun rows => ?_⟩
  rw [(tallies_as_queried mixed 7 users hours amounts).2.1, tallies_mixed]
  rfl

end Tables
end Wagebook
