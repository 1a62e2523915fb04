import DataGrid.Proofs.Execution.Prepare
import DataGrid.Proofs.Execution.Rejection

namespace DataGrid.Sql

inductive Call where
  | rows (statement : Statement)
  | count (statement : Statement)

/-- How a database answers a statement. The answer may hang on all that was asked before it. -/
structure Database where
  rows : List Call → Statement → Except String (List Json)
  count : List Call → Statement → Except String Nat

def Database.executor (db : Database) : Executor (StateM (List Call)) where
  rows s := modifyGet fun asked => (db.rows asked s, asked ++ [.rows s])
  count s := modifyGet fun asked => (db.count asked s, asked ++ [.count s])

/-- The answer to a request, and all calls that were made for it. -/
def exchange (db : Database) (d : Dialect) (table : String) (options : Options)
    (request : Request) : Except QueryError Envelope × List Call :=
  (execute (source d table db.executor) options request).run []

inductive Exchange (db : Database) (d : Dialect) (table : String) (options : Options)
    (request : Request) : Except QueryError Envelope → List Call → Prop
  | rejected : request.rejection? = some e → Exchange db d table options request (.error e) []
  | pageFailed : prepare options request = .ok prepared →
    statement d (selectPage table prepared.page) = page → db.rows [] page = .error e →
    Exchange db d table options request (.error (.execution .page e)) [.rows page]
  | uncounted : prepare options request = .ok prepared →
    statement d (selectPage table prepared.page) = page → db.rows [] page = .ok rows →
    request.requireTotalCount = false →
    Exchange db d table options request (.ok ⟨rows, none⟩) [.rows page]
  | countFailed : prepare options request = .ok prepared →
    statement d (selectPage table prepared.page) = page → db.rows [] page = .ok rows →
    request.requireTotalCount = true → prepared.count = some q →
    statement d (selectCount table q) = count → db.count [.rows page] count = .error e →
    Exchange db d table options request (.error (.execution .count e)) [.rows page, .count count]
  | counted : prepare options request = .ok prepared →
    statement d (selectPage table prepared.page) = page → db.rows [] page = .ok rows →
    request.requireTotalCount = true → prepared.count = some q →
    statement d (selectCount table q) = count → db.count [.rows page] count = .ok total →
    Exchange db d table options request (.ok ⟨rows, some total⟩) [.rows page, .count count]

/-- One call: what comes after it goes on with the answer, and the call is kept. -/
theorem run_page_bind (db : Database) (d : Dialect) (table : String) (q : Query)
    (next : Except String (List Json) → StateM (List Call) α) (asked : List Call) :
    ((source d table db.executor).page q >>= next).run asked =
      (next (db.rows asked (statement d (selectPage table q)))).run
        (asked ++ [.rows (statement d (selectPage table q))]) :=
  rfl

theorem run_count_bind (db : Database) (d : Dialect) (table : String) (q : Query)
    (next : Except String Nat → StateM (List Call) α) (asked : List Call) :
    ((source d table db.executor).count q >>= next).run asked =
      (next (db.count asked (statement d (selectCount table q)))).run
        (asked ++ [.count (statement d (selectCount table q))]) :=
  rfl

section
variable {db : Database} {d : Dialect} {table : String} {options : Options} {request : Request}

theorem exchange_of_error {e : QueryError} (h : prepare options request = .error e) :
    exchange db d table options request = (.error e, []) := by
  unfold exchange execute
  rw [h]
  rfl

theorem exchange_of_page_error {prepared : Prepared} {e : String}
    (ready : prepare options request = .ok prepared)
    (hrows : db.rows [] (statement d (selectPage table prepared.page)) = .error e) :
    exchange db d table options request =
      (.error (.execution .page e), [.rows (statement d (selectPage table prepared.page))]) := by
  unfold exchange execute
  rw [ready]
  refine (run_page_bind db d table prepared.page _ []).trans ?_
  rw [hrows]
  rfl

theorem exchange_of_no_count {prepared : Prepared} {rows : List Json}
    (ready : prepare options request = .ok prepared)
    (hrows : db.rows [] (statement d (selectPage table prepared.page)) = .ok rows)
    (hcount : prepared.count = none) :
    exchange db d table options request =
      (.ok ⟨rows, none⟩, [.rows (statement d (selectPage table prepared.page))]) := by
  unfold exchange execute
  rw [ready]
  refine (run_page_bind db d table prepared.page _ []).trans ?_
  rw [hrows, hcount]
  rfl

theorem exchange_of_count {prepared : Prepared} {rows : List Json} {q : Query}
    {answer : Except String Nat} (ready : prepare options request = .ok prepared)
    (hrows : db.rows [] (statement d (selectPage table prepared.page)) = .ok rows)
    (hcount : prepared.count = some q)
    (hanswer : db.count [.rows (statement d (selectPage table prepared.page))]
      (statement d (selectCount table q)) = answer) :
    exchange db d table options request =
      ((answer.mapError (.execution .count)).map (⟨rows, some ·⟩),
        [.rows (statement d (selectPage table prepared.page)),
          .count (statement d (selectCount table q))]) := by
  unfold exchange execute
  rw [ready]
  refine (run_page_bind db d table prepared.page _ []).trans ?_
  rw [hrows, hcount]
  refine (run_count_bind db d table q _ _).trans ?_
  rw [List.nil_append, hanswer]
  cases answer <;> rfl

theorem Exchange.eq {result : Except QueryError Envelope} {calls : List Call}
    (h : Exchange db d table options request result calls) :
    exchange db d table options request = (result, calls) := by
  cases h with
  | rejected rejection =>
    rw [← errorOf?_prepare options, errorOf?_eq_some_iff] at rejection
    exact exchange_of_error rejection
  | pageFailed ready hpage hrows =>
    subst hpage
    exact exchange_of_page_error ready hrows
  | uncounted ready hpage hrows wanted =>
    subst hpage
    obtain ⟨_, _, _, hcount⟩ := queries_of_prepare ready
    rw [wanted] at hcount
    exact exchange_of_no_count ready hrows hcount
  | countFailed ready hpage hrows _ hcount hstatement hfail =>
    subst hpage hstatement
    exact exchange_of_count ready hrows hcount hfail
  | counted ready hpage hrows _ hcount hstatement htotal =>
    subst hpage hstatement
    exact exchange_of_count ready hrows hcount htotal

variable (db d table options request) in
theorem exists_exchange : ∃ result calls, Exchange db d table options request result calls := by
  cases ready : prepare options request with
  | error e =>
    have rejection : request.rejection? = some e := by
      rw [← errorOf?_prepare options, errorOf?_eq_some_iff, ready]
    exact ⟨_, _, .rejected rejection⟩
  | ok prepared =>
    obtain ⟨w, _, _, hcount⟩ := queries_of_prepare ready
    cases hrows : db.rows [] (statement d (selectPage table prepared.page)) with
    | error e => exact ⟨_, _, .pageFailed ready rfl hrows⟩
    | ok rows =>
      cases wanted : request.requireTotalCount with
      | false => exact ⟨_, _, .uncounted ready rfl hrows wanted⟩
      | true =>
        rw [wanted, if_pos rfl] at hcount
        cases htotal : db.count [.rows (statement d (selectPage table prepared.page))]
            (statement d (selectCount table { clause := w })) with
        | error e => exact ⟨_, _, .countFailed ready rfl hrows wanted hcount rfl htotal⟩
        | ok total => exact ⟨_, _, .counted ready rfl hrows wanted hcount rfl htotal⟩

end

/-- The answer of a database takes one of the ways that there are, with the calls made on that way
and no others, and it takes each way whose conditions hold. The error is the client's just when
nothing was asked. -/
theorem page_is_asked_before_count (db : Database) (d : Dialect) (table : String)
    (options : Options) (request : Request) :
    (∀ result calls, exchange db d table options request = (result, calls) ↔
      Exchange db d table options request result calls) ∧
    ∀ e calls, exchange db d table options request = (.error e, calls) →
      (e.isClientError = true ↔ calls = []) := by
  obtain ⟨result, calls, way⟩ := exists_exchange db d table options request
  have taken : exchange db d table options request = (result, calls) := way.eq
  refine ⟨fun result' calls' => ⟨fun h => ?_, Exchange.eq⟩, fun e calls' h => ?_⟩
  · rw [taken] at h
    cases h
    exact way
  · rw [taken] at h
    cases h
    cases way with
    | rejected rejection => exact iff_of_true (Request.isClientError_of_rejection? rejection) rfl
    | pageFailed => exact iff_of_false Bool.false_ne_true (List.cons_ne_nil _ _)
    | countFailed => exact iff_of_false Bool.false_ne_true (List.cons_ne_nil _ _)

end DataGrid.Sql
