import Assay.Journal
import Mathlib

/-! Sessions with a journal: operations on the value, with looks at the log in
between. The log lists the operations that were called, in order; a log seen
earlier is the beginning of every later one. The log and the first value
determine the journal, so replaying the log gives the same journal again. -/
namespace Assay

namespace Journal

/-- What can be asked of a journal. -/
inductive Call (α : Type) where
  | add (x : α)
  | multiply (x : α)
  | look

inductive Answer (α : Type) where
  | value (x : α)
  | history (entries : List (Entry α))

section Entries

variable {α : Type}

/-- The entry that a call is to leave in the log; a look leaves none. -/
def Call.entry? : Call α → Option (Entry α)
  | .add x => some ⟨.add, x⟩
  | .multiply x => some ⟨.multiply, x⟩
  | .look => none

def entries (calls : List (Call α)) : List (Entry α) := calls.filterMap Call.entry?

/-- The call that an entry tells of. -/
def Entry.call (entry : Entry α) : Call α :=
  match entry.operation with
  | .add => .add entry.operand
  | .multiply => .multiply entry.operand

/-- The log that an answer shows. -/
def Answer.history? : Answer α → Option (List (Entry α))
  | .value _ => none
  | .history entries => some entries

theorem Entry.entry?_call (entry : Entry α) : entry.call.entry? = some entry := by
  obtain ⟨operation, operand⟩ := entry
  cases operation with
  | add => rfl
  | multiply => rfl

theorem entries_map_call (history : List (Entry α)) : entries (history.map Entry.call) = history := by
  rw [entries, List.filterMap_map]
  exact (List.filterMap_congr fun entry _ => entry.entry?_call).trans List.filterMap_some

theorem entries_append_of_some {call : Call α} {entry : Entry α} (leaves : call.entry? = some entry)
    (calls : List (Call α)) : entries (calls ++ [call]) = entries calls ++ [entry] := by
  simp [entries, leaves]

end Entries

section Sessions

variable {α : Type} [Add α] [Mul α]

/-- The value that the entries of a log make of a first one, oldest entry first. -/
def evaluate (x : α) : List (Entry α) → α
  | [] => x
  | ⟨.add, y⟩ :: rest => evaluate (x + y) rest
  | ⟨.multiply, y⟩ :: rest => evaluate (x * y) rest

theorem evaluate_append (x : α) (history : List (Entry α)) (entry : Entry α) :
    evaluate x (history ++ [entry]) = entry.apply (evaluate x history) := by
  induction history generalizing x with
  | nil =>
    obtain ⟨operation, operand⟩ := entry
    cases operation with
    | add => rfl
    | multiply => rfl
  | cons first rest ih =>
    obtain ⟨operation, operand⟩ := first
    cases operation with
    | add => exact ih (x + operand)
    | multiply => exact ih (x * operand)

/-- The answer that a call should have after the calls before it: an operation is
answered with the value that the log up to and including it makes of the first
value, a look with the log so far. -/
def answer (x : α) (before : List (Call α)) : Call α → Answer α
  | .look => .history (entries before)
  | call => .value (evaluate x (entries (before ++ [call])))

/-- The journal after a call, with the answer. -/
def ask (journal : Journal α) : Call α → Journal α × Answer α
  | .add x => (journal.add x, .value (journal.add x).value)
  | .multiply x => (journal.multiply x, .value (journal.multiply x).value)
  | .look => (journal, .history journal.history)

/-- A journal in use, with the answers given so far. -/
structure Session (α : Type) where
  journal : Journal α
  answers : List (Answer α)

namespace Session

def act (session : Session α) (call : Call α) : Session α :=
  ⟨(session.journal.ask call).1, session.answers ++ [(session.journal.ask call).2]⟩

def run (x : α) (calls : List (Call α)) : Session α := calls.foldl act ⟨start x, []⟩

/-- The logs that were looked at. -/
def looks (session : Session α) : List (List (Entry α)) :=
  session.answers.filterMap Answer.history?

end Session

/-- An operation extends the log by its entry, applies it to the value and answers
with the result. -/
theorem ask_of_some {call : Call α} {entry : Entry α} (leaves : call.entry? = some entry)
    (journal : Journal α) :
    journal.ask call = (journal.record entry, .value (entry.apply journal.value)) := by
  cases call with
  | add x =>
    cases leaves
    rfl
  | multiply x =>
    cases leaves
    rfl
  | look => cases leaves

theorem answer_of_some {call : Call α} {entry : Entry α} (leaves : call.entry? = some entry) (x : α)
    (before : List (Call α)) :
    answer x before call = .value (entry.apply (evaluate x (entries before))) := by
  rw [← evaluate_append, ← entries_append_of_some leaves]
  cases call with
  | add y => rfl
  | multiply y => rfl
  | look => cases leaves

namespace Session

/-- What every moment of a session has made of the first value and the calls. -/
structure Faithful (session : Session α) (x : α) (calls : List (Call α)) : Prop where
  history : session.journal.history = entries calls
  value : session.journal.value = evaluate x session.journal.history
  answers : session.answers = calls.mapIdx fun index => answer x (calls.take index)
  growing : (session.looks ++ [session.journal.history]).Pairwise (· <+: ·)

theorem faithful_start (x : α) : Faithful ⟨start x, []⟩ x [] where
  history := rfl
  value := rfl
  answers := rfl
  growing := List.pairwise_singleton _ _

theorem mapIdx_answer_append (x : α) (calls : List (Call α)) (call : Call α) :
    ((calls ++ [call]).mapIdx fun index => answer x ((calls ++ [call]).take index)) =
      (calls.mapIdx fun index => answer x (calls.take index)) ++ [answer x calls call] := by
  have earlier : (calls.mapIdx fun index => answer x ((calls ++ [call]).take index)) =
      calls.mapIdx fun index => answer x (calls.take index) := by
    rw [List.mapIdx_eq_mapIdx_iff]
    intro index inside
    rw [List.take_append_of_le_length (Nat.le_of_lt inside)]
  rw [List.mapIdx_concat, earlier, List.take_left]

variable {session : Session α} {x : α} {calls : List (Call α)}

theorem Faithful.operate (faithful : session.Faithful x calls) {call : Call α} {entry : Entry α}
    (leaves : call.entry? = some entry) : (session.act call).Faithful x (calls ++ [call]) := by
  have acted : session.act call = ⟨session.journal.record entry,
      session.answers ++ [.value (entry.apply session.journal.value)]⟩ := by
    rw [act, ask_of_some leaves]
  rw [acted]
  constructor
  · rw [entries_append_of_some leaves, ← faithful.history]
    rfl
  · rw [record, evaluate_append, ← faithful.value]
  · rw [mapIdx_answer_append, answer_of_some leaves, ← faithful.answers, faithful.value,
      faithful.history]
  · -- The looks are the same as before, and the log they begin has become longer.
    have looks : looks ⟨session.journal.record entry,
        session.answers ++ [.value (entry.apply session.journal.value)]⟩ = session.looks := by
      simp [Session.looks, Answer.history?]
    obtain ⟨ordered, _, begun⟩ := List.pairwise_append.mp faithful.growing
    rw [looks, List.pairwise_append]
    refine ⟨ordered, List.pairwise_singleton _ _, ?_⟩
    intro earlier seen later last
    rw [List.mem_singleton.mp last]
    exact (begun earlier seen _ List.mem_cons_self).trans (List.prefix_append _ _)

theorem Faithful.look (faithful : session.Faithful x calls) :
    (session.act .look).Faithful x (calls ++ [.look]) := by
  have same : entries (calls ++ [Call.look]) = entries calls := by
    simp [entries, Call.entry?]
  have looks : (session.act .look).looks = session.looks ++ [session.journal.history] := by
    simp [Session.looks, act, ask, Answer.history?]
  constructor
  · rw [same, ← faithful.history]
    rfl
  · exact faithful.value
  · rw [mapIdx_answer_append, ← faithful.answers, answer, ← faithful.history]
    rfl
  · rw [looks, List.pairwise_append]
    refine ⟨faithful.growing, List.pairwise_singleton _ _, ?_⟩
    intro earlier seen later last
    rw [List.mem_singleton.mp last]
    obtain ⟨_, _, begun⟩ := List.pairwise_append.mp faithful.growing
    rcases List.mem_append.mp seen with before | now
    · exact begun earlier before _ List.mem_cons_self
    · rw [List.mem_singleton.mp now]
      exact List.prefix_refl _

theorem Faithful.act (faithful : session.Faithful x calls) (call : Call α) :
    (session.act call).Faithful x (calls ++ [call]) := by
  cases call with
  | add y => exact faithful.operate rfl
  | multiply y => exact faithful.operate rfl
  | look => exact faithful.look

theorem run_faithful (x : α) (calls : List (Call α)) : (run x calls).Faithful x calls := by
  induction calls using List.reverseRecOn with
  | nil => exact faithful_start x
  | append_singleton earlier call ih =>
    have last : run x (earlier ++ [call]) = (run x earlier).act call := List.foldl_append
    rw [last]
    exact ih.act call

/-- The first value and the log determine the journal. -/
theorem Faithful.journal_eq (faithful : session.Faithful x calls) :
    session.journal = ⟨evaluate x (entries calls), entries calls⟩ := by
  have value : session.journal.value = evaluate x (entries calls) := by
    rw [faithful.value, faithful.history]
  rw [← value, ← faithful.history]

end Session

/-- After any session the log lists the operations that were called, in order, and
the value is what the log makes of the first one. Each operation was answered with
the value that the log up to and including it makes, each look with the log so far,
and every log seen is the beginning of those seen after it and of the last one.
Replaying the last log on a new journal gives the same journal. -/
theorem session_replay (x : α) (calls : List (Call α)) :
    (Session.run x calls).journal.history = calls.filterMap Call.entry? ∧
    (Session.run x calls).journal.value = evaluate x (Session.run x calls).journal.history ∧
    (Session.run x calls).answers = (calls.mapIdx fun index => answer x (calls.take index)) ∧
    ((Session.run x calls).looks ++ [(Session.run x calls).journal.history]).Pairwise (· <+: ·) ∧
    (Session.run x ((Session.run x calls).journal.history.map Entry.call)).journal =
      (Session.run x calls).journal := by
  have faithful := Session.run_faithful x calls
  refine ⟨faithful.history, faithful.value, faithful.answers, faithful.growing, ?_⟩
  rw [(Session.run_faithful x _).journal_eq, entries_map_call, faithful.journal_eq]

end Sessions

end Journal

end Assay
