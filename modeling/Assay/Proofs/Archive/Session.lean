import Assay.Archive
import Mathlib

/-! Sessions with an archive. Between calls the whole archive may be copied to a
numbered place and taken back from there, which undoes the calls made since. What
an archive holds at any moment is told by the calls that lead to that moment: how
many of them read a document, and what they wrote last under each name. -/
namespace Assay

namespace Archive

inductive Call where
  | read (text : String)
  | store (name : String) (value : Json)
  /-- Reads a text and keeps what came of it under a name. -/
  | readInto (name text : String)

namespace Call

/-- Whether the call reads a text that is a document. -/
def parses : Call → Bool
  | .read text => (Json.parse? text).isSome
  | .store _ _ => false
  | .readInto _ text => (Json.parse? text).isSome

/-- The name and the value that the call writes. -/
def written? : Call → Option (String × Json)
  | .read _ => none
  | .store name value => some (name, value)
  | .readInto name text => some (name, (Json.parse? text).getD (.object []))

/-- What was written last under a name. -/
def last? (calls : List Call) (name : String) : Option Json :=
  (((calls.filterMap written?).filter fun entry => entry.1 = name).getLast?).map Prod.snd

/-- The names that were written, repetitions included. -/
def names (calls : List Call) : List String := (calls.filterMap written?).map Prod.fst

theorem last?_append_of_written {call : Call} {written : String} {value : Json}
    (writes : call.written? = some (written, value)) (calls : List Call) (name : String) :
    last? (calls ++ [call]) name = if written = name then some value else last? calls name := by
  by_cases same : written = name
  · simp [last?, writes, same]
  · simp [last?, writes, same]

theorem last?_append_of_none {call : Call} (silent : call.written? = none) (calls : List Call)
    (name : String) : last? (calls ++ [call]) name = last? calls name := by
  simp [last?, silent]

end Call

/-- The archive after a call. -/
def apply (archive : Archive) : Call → Archive
  | .read text => (archive.read text).2
  | .store name value => archive.store name value
  | .readInto name text => (archive.read text).2.store name (archive.read text).1

theorem read_fst (archive : Archive) (text : String) :
    (archive.read text).1 = (Json.parse? text).getD (.object []) := by
  unfold read
  cases Json.parse? text with
  | none => rfl
  | some document => rfl

theorem read_snd (archive : Archive) (text : String) :
    (archive.read text).2 =
      { archive with
        documents := archive.documents + if (Json.parse? text).isSome then 1 else 0 } := by
  unfold read
  cases Json.parse? text with
  | none => rfl
  | some document => rfl

theorem documents_apply (archive : Archive) (call : Call) :
    (archive.apply call).documents = archive.documents + if call.parses then 1 else 0 := by
  cases call with
  | read text => rw [apply, read_snd, Call.parses]
  | store name value => rfl
  | readInto name text => rw [apply, store, read_snd, Call.parses]

theorem cache_apply_of_none {call : Call} (silent : call.written? = none) (archive : Archive) :
    (archive.apply call).cache = archive.cache := by
  cases call with
  | read text => rw [apply, read_snd]
  | store name value => cases silent
  | readInto name text => cases silent

theorem cache_apply_of_written {call : Call} {name : String} {value : Json}
    (writes : call.written? = some (name, value)) (archive : Archive) :
    (archive.apply call).cache = Fields.insert archive.cache name value := by
  cases call with
  | read text => cases writes
  | store name value =>
    cases writes
    rfl
  | readInto name text =>
    cases writes
    rw [apply, store, read_fst, read_snd]

/-- The archive holds what the calls have made of an empty one. -/
structure Accounts (archive : Archive) (calls : List Call) : Prop where
  documents : archive.documents = calls.countP Call.parses
  values : ∀ name, archive.get? name = Call.last? calls name
  distinct : archive.cache.Distinct
  names : archive.cache.names.toFinset = (Call.names calls).toFinset

theorem accounts_empty : empty.Accounts [] where
  documents := rfl
  values _ := rfl
  distinct := List.nodup_nil
  names := rfl

/-- One more call adds itself to the account. -/
theorem Accounts.apply {archive : Archive} {calls : List Call} (account : archive.Accounts calls)
    (call : Call) : (archive.apply call).Accounts (calls ++ [call]) := by
  have documents : (archive.apply call).documents = (calls ++ [call]).countP Call.parses := by
    rw [documents_apply, account.documents, List.countP_append, List.countP_singleton]
  cases writes : call.written? with
  | none =>
    have cache := cache_apply_of_none writes archive
    refine ⟨documents, ?_, ?_, ?_⟩
    · intro name
      rw [get?, cache, Call.last?_append_of_none writes]
      exact account.values name
    · rw [cache]
      exact account.distinct
    · rw [cache, account.names, Call.names, Call.names]
      simp [writes]
  | some entry =>
    obtain ⟨written, value⟩ := entry
    have cache := cache_apply_of_written writes archive
    refine ⟨documents, ?_, ?_, ?_⟩
    · intro name
      rw [get?, cache, Fields.get?_insert, Call.last?_append_of_written writes, ← account.values]
      rfl
    · rw [cache]
      exact Fields.distinct_insert account.distinct written value
    · have extended : Call.names (calls ++ [call]) = Call.names calls ++ [written] := by
        simp [Call.names, writes]
      rw [cache, extended, Fields.names_insert, List.toFinset_append, ← account.names]
      split
      · rename_i known
        simp [known]
      · rw [List.toFinset_append]

theorem Accounts.length_cache {archive : Archive} {calls : List Call}
    (account : archive.Accounts calls) :
    archive.cache.length = (Call.names calls).toFinset.card := by
  rw [← account.names, List.toFinset_card_of_nodup account.distinct, Fields.names, List.length_map]

/-- A step of a session: a call, or a copy of the whole archive to a place or back
from it. -/
inductive Action where
  | call (call : Call)
  | save (place : Nat)
  | restore (place : Nat)

structure Session where
  current : Archive
  saved : Nat → Archive

namespace Session

/-- Every place starts with an empty archive. -/
def start : Session := ⟨empty, fun _ => empty⟩

def act (session : Session) : Action → Session
  | .call call => { session with current := session.current.apply call }
  | .save place => { session with saved := Function.update session.saved place session.current }
  | .restore place => { session with current := session.saved place }

def run (actions : List Action) : Session := actions.foldl act start

end Session

mutual

/-- The calls that lead to the archive after the actions. The actions stand latest
first, and so do the calls. -/
def lineage : List Action → List Call
  | [] => []
  | .call call :: earlier => call :: lineage earlier
  | .save _ :: earlier => lineage earlier
  | .restore place :: earlier => savedLineage place earlier

/-- The calls that lead to the archive last saved at a place. -/
def savedLineage (place : Nat) : List Action → List Call
  | [] => []
  | .save other :: earlier => if other = place then lineage earlier else savedLineage place earlier
  | .call _ :: earlier => savedLineage place earlier
  | .restore _ :: earlier => savedLineage place earlier

end

/-- The calls that lead to the current archive, in order; those that a restore has
undone are left out. -/
def trail (actions : List Action) : List Call := (lineage actions.reverse).reverse

def savedTrail (place : Nat) (actions : List Action) : List Call :=
  (savedLineage place actions.reverse).reverse

section Trails

variable (earlier : List Action) (place : Nat)

theorem trail_call (call : Call) : trail (earlier ++ [.call call]) = trail earlier ++ [call] := by
  simp [trail, lineage]

theorem trail_save : trail (earlier ++ [.save place]) = trail earlier := by
  simp [trail, lineage]

theorem trail_restore : trail (earlier ++ [.restore place]) = savedTrail place earlier := by
  simp [trail, savedTrail, lineage]

theorem savedTrail_call (call : Call) :
    savedTrail place (earlier ++ [.call call]) = savedTrail place earlier := by
  simp [savedTrail, savedLineage]

theorem savedTrail_save (other : Nat) :
    savedTrail place (earlier ++ [.save other]) =
      if other = place then trail earlier else savedTrail place earlier := by
  by_cases same : other = place
  · simp [savedTrail, savedLineage, trail, same]
  · simp [savedTrail, savedLineage, same]

theorem savedTrail_restore (other : Nat) :
    savedTrail place (earlier ++ [.restore other]) = savedTrail place earlier := by
  simp [savedTrail, savedLineage]

end Trails

/-- Every archive of the session, the current one and those put aside, holds what
the calls that lead to it have made. -/
structure Session.Tracks (session : Session) (actions : List Action) : Prop where
  current : session.current.Accounts (trail actions)
  saved : ∀ place, (session.saved place).Accounts (savedTrail place actions)

theorem Session.start_tracks : start.Tracks [] :=
  ⟨accounts_empty, fun _ => accounts_empty⟩

theorem Session.Tracks.act {session : Session} {earlier : List Action}
    (tracks : session.Tracks earlier) (action : Action) :
    (session.act action).Tracks (earlier ++ [action]) := by
  cases action with
  | call call =>
    refine ⟨?_, fun place => ?_⟩
    · rw [trail_call]
      exact tracks.current.apply call
    · rw [savedTrail_call]
      exact tracks.saved place
  | save target =>
    refine ⟨?_, fun place => ?_⟩
    · rw [trail_save]
      exact tracks.current
    · rw [savedTrail_save]
      by_cases same : target = place
      · subst same
        simpa [Session.act] using tracks.current
      · simpa [Session.act, same, Ne.symm same] using tracks.saved place
  | restore source =>
    refine ⟨?_, fun place => ?_⟩
    · rw [trail_restore]
      exact tracks.saved source
    · rw [savedTrail_restore]
      exact tracks.saved place

theorem Session.run_tracks (actions : List Action) : (run actions).Tracks actions := by
  induction actions using List.reverseRecOn with
  | nil => exact start_tracks
  | append_singleton earlier action ih =>
    have last : run (earlier ++ [action]) = (run earlier).act action := List.foldl_append
    rw [last]
    exact ih.act action

/-- After any session the current archive has counted the documents that were read
on the way to it, has under each name the value written there last, and has as many
values as names were written. Reading leaves the values alone, storing leaves the
count alone, and a text that is no document changes nothing and reads as an empty
object. -/
theorem session_account (actions : List Action) :
    (Session.run actions).current.documents = (trail actions).countP Call.parses ∧
    (∀ name, (Session.run actions).current.get? name = Call.last? (trail actions) name) ∧
    (Session.run actions).current.cache.length = (Call.names (trail actions)).toFinset.card ∧
    (∀ (archive : Archive) (text : String), (archive.read text).2.cache = archive.cache) ∧
    (∀ (archive : Archive) (name : String) (value : Json),
      (archive.store name value).documents = archive.documents) ∧
    (∀ (archive : Archive) (text : String), Json.parse? text = none →
      archive.read text = (.object [], archive)) := by
  have account := (Session.run_tracks actions).current
  refine ⟨account.documents, account.values, account.length_cache, ?_, ?_, ?_⟩
  · intro archive text
    rw [read_snd]
  · intro archive name value
    rfl
  · intro archive text malformed
    apply Prod.ext
    · rw [read_fst, malformed]
      rfl
    · rw [read_snd, malformed]
      rfl

/-- A session whose middle is undone. Its first text is the empty object, and its
last one is no document. -/
def undone : List Action :=
  [.call (.read "\x7b\x7d"), .save 1, .call (.store "kept" .null),
    .call (.readInto "list" "[1, 2]"), .restore 1, .call (.readInto "late" "\x7bnot json")]

theorem undone_account :
    Json.parse? "\x7bnot json" = none ∧
      (Session.run undone).current.documents = 1 ∧
      (Session.run undone).current.get? "kept" = none ∧
      (Session.run undone).current.get? "late" = some (.object []) ∧
      (Session.run undone).current.cache.length = 1 := by
  have malformed : Json.parse? "\x7bnot json" = none := by cbv
  have empty : Json.parse? "\x7b\x7d" = some (.object []) := by cbv
  have calls : trail undone = [.read "\x7b\x7d", .readInto "late" "\x7bnot json"] := rfl
  have written : (trail undone).filterMap Call.written? = [("late", .object [])] := by
    simp [calls, List.filterMap_cons, Call.written?, malformed]
  obtain ⟨documents, values, size, _⟩ := session_account undone
  refine ⟨malformed, ?_, ?_, ?_, ?_⟩
  · rw [documents, calls]
    simp [Call.parses, malformed, empty]
  · rw [values, Call.last?, written]
    simp
  · rw [values, Call.last?, written]
    simp
  · rw [size, Call.names, written]
    simp

end Archive

end Assay
