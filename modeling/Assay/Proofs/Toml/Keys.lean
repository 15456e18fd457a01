import Assay.Fields
import Assay.Toml.Parser
import Mathlib

/-! The keys of a document. Lines and headers change the top table by putting one node into
it at a time, which keeps its keys in ascending order. So the table that comes of any
text has no key twice, whatever tables are opened, implied or extended on the way. -/
namespace Assay.Toml

namespace Entries

variable {before after : Entries} {change : Entries → Option Entries}

def Ascending (entries : Entries) : Prop := (Fields.names entries).Pairwise (· < ·)

theorem mem_names_put {entries : Entries} {name key : String} {node : Node}
    (member : key ∈ Fields.names (put entries name node)) :
    key = name ∨ key ∈ Fields.names entries := by
  fun_induction put entries name node with
  | case1 name node => simpa [Fields.names] using member
  | case2 old rest name node => exact .inr member
  | case3 first old rest name node other less => simpa [Fields.names] using member
  | case4 first old rest name node other less ih =>
    rcases List.mem_cons.mp member with same | later
    · exact .inr (List.mem_cons.mpr (.inl same))
    · rcases ih later with same | known
      · exact .inl same
      · exact .inr (List.mem_cons_of_mem first known)

theorem ascending_put {entries : Entries} (ascending : entries.Ascending) (name : String)
    (node : Node) : (put entries name node).Ascending := by
  fun_induction put entries name node with
  | case1 name node => exact List.pairwise_singleton _ _
  | case2 old rest name node => exact ascending
  | case3 first old rest name node other less =>
    refine List.pairwise_cons.mpr ⟨?_, ascending⟩
    intro key member
    rcases List.mem_cons.mp member with rfl | later
    · exact less
    · exact less.trans ((List.pairwise_cons.mp ascending).1 key later)
  | case4 first old rest name node other less ih =>
    obtain ⟨below, sorted⟩ := List.pairwise_cons.mp ascending
    refine List.pairwise_cons.mpr ⟨?_, ih sorted⟩
    intro key member
    rcases mem_names_put member with rfl | known
    · exact lt_of_le_of_ne (not_lt.mp less) other
    · exact below key known

/-- A table and itself, or the table with a node put into it. -/
def Extends (before after : Entries) : Prop :=
  after = before ∨ ∃ key node, after = put before key node

theorem Extends.ascending (extended : before.Extends after) (ascending : before.Ascending) :
    after.Ascending := by
  rcases extended with rfl | ⟨key, node, rfl⟩
  · exact ascending
  · exact ascending_put ascending key node

/-- Where the change succeeds, it puts one node into the table. -/
def Puts (change : Entries → Option Entries) : Prop :=
  ∀ before after, change before = some after → ∃ key node, after = put before key node

theorem exists_put_of_map {α : Type} {inner : Option α} {key : String} {wrap : α → Node}
    (mapped : (inner.map fun content => put before key (wrap content)) = some after) :
    ∃ key node, after = put before key node := by
  obtain ⟨content, _, rfl⟩ := Option.map_eq_some_iff.mp mapped
  exact ⟨key, wrap content, rfl⟩

theorem puts_openTable (name : String) : Puts (openTable name) := by
  intro before after opened
  unfold openTable at opened
  split at opened
  · cases opened
    exact ⟨_, _, rfl⟩
  · cases opened
    exact ⟨_, _, rfl⟩
  · contradiction

theorem puts_openElement (name : String) : Puts (openElement name) := by
  intro before after opened
  unfold openElement at opened
  split at opened
  · cases opened
    exact ⟨_, _, rfl⟩
  · cases opened
    exact ⟨_, _, rfl⟩
  · contradiction

theorem puts_assign (v : Toml) (path : List String) : Puts (assign v path) := by
  intro before after assigned
  unfold assign at assigned
  split at assigned
  · contradiction
  · split at assigned
    · cases assigned
      exact ⟨_, _, rfl⟩
    · contradiction
  · split at assigned
    · exact exists_put_of_map assigned
    · exact exists_put_of_map assigned
    · split at assigned
      · contradiction
      · exact exists_put_of_map assigned
    · split at assigned
      · contradiction
      · exact exists_put_of_map assigned
    · contradiction

theorem puts_descend (puts : Puts change) (path : List String) : Puts (descend change path) := by
  intro before after descended
  unfold descend at descended
  split at descended
  · exact puts _ _ descended
  · split at descended
    · exact exists_put_of_map descended
    · exact exists_put_of_map descended
    · exact exists_put_of_map descended
    · contradiction

end Entries

namespace Reader

open Entries (Extends Puts Ascending)

variable {reader next : Reader}

theorem extends_of_finish {v : Toml} {frames : List Frame}
    (finished : reader.finish v frames = some next) : reader.root.Extends next.root := by
  unfold finish at finished
  split at finished
  · rename_i path
    simp only [Option.bind_eq_bind, Option.bind_eq_some_iff, Option.pure_def,
      Option.some.injEq] at finished
    obtain ⟨root, changed, rfl⟩ := finished
    have puts := Entries.puts_descend (Entries.puts_assign v path) reader.current
    exact .inr (puts _ _ changed)
  · cases finished
    exact .inl rfl

theorem extends_of_beginValue {frames : List Frame} {token : Token}
    (begun : reader.beginValue frames token = some next) : reader.root.Extends next.root := by
  unfold beginValue at begun
  split at begun
  · simp only [Option.bind_eq_bind, Option.bind_eq_some_iff] at begun
    obtain ⟨v, _, finished⟩ := begun
    exact extends_of_finish finished
  · exact extends_of_finish begun
  · exact extends_of_finish begun
  · split at begun
    · cases begun
      exact .inl rfl
    · contradiction
  · split at begun
    · cases begun
      exact .inl rfl
    · contradiction
  · contradiction

theorem extends_of_openHeader {openLast : String → Entries → Option Entries}
    {pieces : List Piece} (puts : ∀ name, Puts (openLast name))
    (opened : reader.openHeader openLast pieces = some next) :
    reader.root.Extends next.root := by
  simp only [openHeader, Option.bind_eq_bind, Option.bind_eq_some_iff, Option.pure_def,
    Option.some.injEq] at opened
  obtain ⟨path, _, last, _, root, changed, rfl⟩ := opened
  exact .inr (Entries.puts_descend (puts last) path.dropLast _ _ changed)

/-- What a token can do to the top table. Only the end of a line's value and the end of a
header change it. -/
theorem extends_of_step {token : Token} (stepped : reader.step token = some next) :
    reader.root.Extends next.root := by
  have kept : next.root = reader.root → reader.root.Extends next.root := .inl
  have table : ∀ pieces, reader.openHeader Entries.openTable pieces = some next →
      reader.root.Extends next.root := fun _ => extends_of_openHeader Entries.puts_openTable
  have element : ∀ pieces, reader.openHeader Entries.openElement pieces = some next →
      reader.root.Extends next.root := fun _ => extends_of_openHeader Entries.puts_openElement
  unfold step at stepped
  split at stepped
  all_goals grind [→ extends_of_finish, → extends_of_beginValue, Option.bind_eq_some_iff]

theorem ascending_run {tokens : List Token} (run : tokens.foldlM step reader = some next)
    (ascending : reader.root.Ascending) : next.root.Ascending := by
  induction tokens generalizing reader with
  | nil =>
    cases run
    exact ascending
  | cons token rest ih =>
    rw [List.foldlM_cons, Option.bind_eq_bind, Option.bind_eq_some_iff] at run
    obtain ⟨middle, stepped, run⟩ := run
    exact ih run ((extends_of_step stepped).ascending ascending)

end Reader

theorem names_finishEntries (entries : Entries) :
    Fields.names (finishEntries entries) = Fields.names entries := by
  induction entries with
  | nil => rfl
  | cons entry rest ih =>
    obtain ⟨key, node⟩ := entry
    rw [finishEntries]
    exact congrArg (key :: ·) ih

/-- No key of a document stands for two values. -/
theorem parse?_distinct {text : String} {entries : Fields Toml}
    (parsed : parse? text = some entries) : entries.Distinct := by
  simp only [parse?, Option.bind_eq_bind, Option.bind_eq_some_iff] at parsed
  obtain ⟨tokens, _, reader, run, finished⟩ := parsed
  have ascending : reader.root.Ascending := Reader.ascending_run run .nil
  unfold Reader.document? at finished
  split at finished
  · cases finished
    rw [Fields.Distinct, names_finishEntries]
    exact ascending.imp ne_of_lt
  · cases finished
    rw [Fields.Distinct, names_finishEntries]
    exact ascending.imp ne_of_lt
  · contradiction

end Assay.Toml
