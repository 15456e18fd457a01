import Assay.Archive
import Assay.Proofs.Json.Lexemes

/-! Reading what was written. Both forms of a value, the compact and the indented,
read as the same tokens, and the reader builds the value from these whatever stands
around it. So a value without floats comes back from either form, unless an object
in it repeats a name or it is nested more deeply than the reader goes. -/
namespace Assay

namespace Json

/-- Values that text keeps: no number in them is a float, and no object in them
has two members of one name. -/
inductive Exact : Json → Prop where
  | null : Exact .null
  | bool (b : Bool) : Exact (.bool b)
  | integer (n : Integer) : Exact (.number (.integer n))
  | string (s : String) : Exact (.string s)
  | array {items : List Json} (each : ∀ item ∈ items, Exact item) : Exact (.array items)
  | object {members : Fields Json} (distinct : members.Distinct)
      (each : ∀ member ∈ members, Exact member.2) : Exact (.object members)

mutual

/-- The tokens that spell a value. -/
def tokens : Json → List Token
  | .null => [.null]
  | .bool b => [.bool b]
  | .number n => [.number n]
  | .string s => [.string s]
  | .array items => .openArray :: itemTokens items ++ [.closeArray]
  | .object members => .openObject :: memberTokens members ++ [.closeObject]

def itemTokens : List Json → List Token
  | [] => []
  | [item] => item.tokens
  | item :: next :: rest => item.tokens ++ .comma :: itemTokens (next :: rest)

def memberTokens : List (String × Json) → List Token
  | [] => []
  | [(key, value)] => .string key :: .colon :: value.tokens
  | (key, value) :: next :: rest =>
    .string key :: .colon :: (value.tokens ++ .comma :: memberTokens (next :: rest))

end

section Separated

/-- A list that is written piece by piece with a separator between neighbours. -/
theorem eq_intercalate {α β : Type} {written : List α → List β} {piece : α → List β} {mark : β}
    (none : written [] = []) (one : ∀ item, written [item] = piece item)
    (more : ∀ item next rest,
      written (item :: next :: rest) = piece item ++ mark :: written (next :: rest))
    (items : List α) : written items = [mark].intercalate (items.map piece) := by
  induction items with
  | nil => exact none
  | cons item rest ih =>
    cases rest with
    | nil => simpa using one item
    | cons next rest => simp [more, ih]

theorem itemTokens_eq (items : List Json) :
    itemTokens items = [.comma].intercalate (items.map tokens) :=
  eq_intercalate rfl (fun _ => rfl) (fun _ _ _ => rfl) items

theorem memberTokens_eq (members : Fields Json) :
    memberTokens members = [.comma].intercalate
      (members.map fun member => .string member.1 :: .colon :: member.2.tokens) :=
  eq_intercalate rfl (fun _ => rfl) (fun _ _ _ => rfl) members

theorem compactItems_eq (items : List Json) :
    compactItems items = [','].intercalate (items.map compactText) :=
  eq_intercalate rfl (fun _ => rfl) (fun _ _ _ => rfl) items

theorem compactMembers_eq (members : Fields Json) :
    compactMembers members = [','].intercalate
      (members.map fun member => quote member.1 ++ ':' :: member.2.compactText) :=
  eq_intercalate rfl (fun _ => rfl) (fun _ _ _ => by simp [compactMembers]) members

theorem indentedItems_eq (level : Nat) (items : List Json) :
    indentedItems level items =
      [','].intercalate (items.map fun item => newLine level ++ indentedText level item) :=
  eq_intercalate rfl (fun _ => rfl) (fun _ _ _ => rfl) items

theorem indentedMembers_eq (level : Nat) (members : Fields Json) :
    indentedMembers level members = [','].intercalate (members.map fun member =>
      newLine level ++ quote member.1 ++ ':' :: ' ' :: indentedText level member.2) :=
  eq_intercalate rfl (fun _ => rfl) (fun _ _ _ => by simp [indentedMembers]) members

end Separated

section Reading

open Token (Reads isBlank punctuation?)

variable {rest : List Char}

/-- Pieces with commas between them read piece by piece. Each piece is followed by a
comma or by the rest, and neither goes on with a number. -/
theorem reads_intercalate {α : Type} {text : α → List Char} {spelling : α → List Token}
    {items : List α}
    (each : ∀ item ∈ items, ∀ {rest : List Char}, EndsNumber rest →
      Reads (text item ++ rest) (spelling item) rest)
    (ends : EndsNumber rest) :
    Reads ([','].intercalate (items.map text) ++ rest)
      ([.comma].intercalate (items.map spelling)) rest := by
  induction items with
  | nil => exact .done
  | cons item others ih =>
    obtain ⟨first, later⟩ := List.forall_mem_cons.mp each
    cases others with
    | nil => simpa using first ends
    | cons next others =>
      have comma : Reads (',' :: ([','].intercalate ((next :: others).map text) ++ rest)) [.comma]
          ([','].intercalate ((next :: others).map text) ++ rest) := .punctuation rfl _
      have all := (first (endsNumber_cons rfl _)).append (comma.append (ih later))
      simpa using all

theorem reads_enclosed {first last : Char} {opening closing : Token} {body : List Char}
    {inner : List Token} (opens : punctuation? first = some opening)
    (closes : punctuation? last = some closing) (gap : List Char)
    (blank : ∀ c ∈ gap, isBlank c = true)
    (inside : Reads (body ++ (gap ++ last :: rest)) inner (gap ++ last :: rest)) :
    Reads (first :: body ++ gap ++ [last] ++ rest) (opening :: inner ++ [closing]) rest := by
  have close := Reads.blanks blank (.punctuation closes rest)
  have all := (Reads.punctuation opens _).append (inside.append close)
  simpa using all

/-- A member of an object, with blanks before its value. -/
theorem reads_member {text : List Char} {inner : List Token} (key : String) (gap : List Char)
    (blank : ∀ c ∈ gap, isBlank c = true) (value : Reads (text ++ rest) inner rest) :
    Reads (quote key ++ ':' :: (gap ++ text) ++ rest) (.string key :: .colon :: inner) rest := by
  have colon : Reads (':' :: (gap ++ (text ++ rest))) [.colon] (gap ++ (text ++ rest)) :=
    .punctuation rfl _
  have all := (Reads.string key _).append (colon.append (value.blanks blank))
  simpa using all

theorem newLine_blank (level : Nat) : ∀ c ∈ newLine level, isBlank c = true := by
  intro c member
  rcases List.mem_cons.mp member with rfl | indent
  · rfl
  · rw [List.eq_of_mem_replicate indent]
    rfl

theorem reads_compactText {v : Json} (exact : v.Exact) (ends : EndsNumber rest) :
    Reads (v.compactText ++ rest) v.tokens rest := by
  -- The text that follows changes from level to level, so the induction is for all of it.
  induction exact generalizing rest with
  | null => exact .null rest
  | bool b => exact .bool b rest
  | integer n => exact .integer n ends
  | string s => exact .string s rest
  | array each ih =>
    have inside := reads_intercalate ih (endsNumber_cons (c := ']') rfl rest)
    rw [compactText, tokens, compactItems_eq, itemTokens_eq]
    simpa using reads_enclosed rfl rfl [] (by simp) inside
  | @object members distinct each ih =>
    have member : ∀ member ∈ members, ∀ {rest : List Char}, EndsNumber rest →
        Reads (quote member.1 ++ ':' :: member.2.compactText ++ rest)
          (.string member.1 :: .colon :: member.2.tokens) rest := by
      intro member among rest ends
      exact reads_member member.1 [] (by simp) (ih member among ends)
    have inside := reads_intercalate member (endsNumber_cons (c := '\x7d') rfl rest)
    rw [compactText, tokens, compactMembers_eq, memberTokens_eq]
    simpa using reads_enclosed rfl rfl [] (by simp) inside

theorem reads_indentedText {v : Json} (exact : v.Exact) (level : Nat) (ends : EndsNumber rest) :
    Reads (indentedText level v ++ rest) v.tokens rest := by
  induction exact generalizing level rest with
  | null => exact .null rest
  | bool b => exact .bool b rest
  | integer n => exact .integer n ends
  | string s => exact .string s rest
  | @array items each ih =>
    have item : ∀ item ∈ items, ∀ {rest : List Char}, EndsNumber rest →
        Reads (newLine (level + 1) ++ indentedText (level + 1) item ++ rest) item.tokens rest := by
      intro item among rest ends
      rw [List.append_assoc]
      exact .blanks (newLine_blank _) (ih item among (level + 1) ends)
    cases items with
    | nil => exact reads_enclosed rfl rfl [] (by simp) .done
    | cons first others =>
      have stop : EndsNumber (newLine level ++ ']' :: rest) := endsNumber_cons rfl _
      have inside := reads_intercalate item stop
      rw [indentedText, tokens, indentedItems_eq, itemTokens_eq]
      exact reads_enclosed rfl rfl (newLine level) (newLine_blank level) inside
  | @object members distinct each ih =>
    have member : ∀ member ∈ members, ∀ {rest : List Char}, EndsNumber rest →
        Reads (newLine (level + 1) ++ quote member.1 ++
            ':' :: ' ' :: indentedText (level + 1) member.2 ++ rest)
          (.string member.1 :: .colon :: member.2.tokens) rest := by
      intro member among rest ends
      have inner := ih member among (level + 1) ends
      have value := reads_member member.1 [' '] (by simp [isBlank]) inner
      simpa using value.blanks (newLine_blank (level + 1))
    cases members with
    | nil => exact reads_enclosed rfl rfl [] (by simp) .done
    | cons first others =>
      have stop : EndsNumber (newLine level ++ '\x7d' :: rest) := endsNumber_cons rfl _
      have inside := reads_intercalate member stop
      rw [indentedText, tokens, indentedMembers_eq, memberTokens_eq]
      exact reads_enclosed rfl rfl (newLine level) (newLine_blank level) inside

end Reading

section Running

theorem depthItems_le {items : List Json} {bound : Nat}
    (each : ∀ item ∈ items, item.depth ≤ bound) : depthItems items ≤ bound := by
  induction items with
  | nil => exact Nat.zero_le bound
  | cons first others ih =>
    obtain ⟨shallow, later⟩ := List.forall_mem_cons.mp each
    rw [depthItems]
    exact Nat.max_le.mpr ⟨shallow, ih later⟩

namespace State

variable {state next : State} {frames : List Frame}

theorem run_append {first second : List Token} (reached : state.run first = some next) :
    state.run (first ++ second) = next.run second := by
  rw [run, List.foldlM_append]
  change (state.run first).bind _ = _
  rw [reached]
  rfl

theorem run_cons {token : Token} {later : List Token} (reached : state.step token = some next) :
    state.run (token :: later) = next.run later := by
  rw [run, List.foldlM_cons]
  change (state.step token).bind _ = _
  rw [reached]
  rfl

/-- The reader takes the value from its tokens wherever a value may stand and
enough levels are left. -/
def Takes (v : Json) : Prop :=
  ∀ {frames : List Frame}, frames.length + v.depth ≤ depthLimit →
    (State.value frames).run v.tokens = some (.after frames v)

theorem run_items {items : List Json} (takes : ∀ item ∈ items, Takes item) (before : List Json)
    (nonempty : items ≠ []) (fits : frames.length + 1 + depthItems items ≤ depthLimit) :
    (State.value (.array before :: frames)).run (itemTokens items ++ [.closeArray]) =
      some (.after frames (.array (before.reverse ++ items))) := by
  induction items generalizing before with
  | nil => contradiction
  | cons item others ih =>
    obtain ⟨first, later⟩ := List.forall_mem_cons.mp takes
    rw [depthItems] at fits
    have taken : (State.value (.array before :: frames)).run item.tokens =
        some (.after (.array before :: frames) item) := by
      apply first
      rw [List.length_cons]
      omega
    cases others with
    | nil =>
      rw [itemTokens, run_append taken, run_cons rfl]
      simp [run]
    | cons next others =>
      rw [itemTokens, List.append_assoc, run_append taken, List.cons_append, run_cons rfl,
        ih later (item :: before) (by simp) (by omega)]
      simp

theorem run_members {members : Fields Json} (takes : ∀ member ∈ members, Takes member.2)
    (before : Fields Json) (distinct : Fields.Distinct (before ++ members))
    (nonempty : members ≠ []) (fits : frames.length + 1 + depthMembers members ≤ depthLimit) :
    (State.nextKey frames before).run (memberTokens members ++ [.closeObject]) =
      some (.after frames (.object (before ++ members))) := by
  induction members generalizing before with
  | nil => contradiction
  | cons member others ih =>
    obtain ⟨key, value⟩ := member
    obtain ⟨first, later⟩ := List.forall_mem_cons.mp takes
    rw [depthMembers] at fits
    have taken : (State.nextKey frames before).run (.string key :: .colon :: value.tokens) =
        some (.after (.object before key :: frames) value) := by
      rw [run_cons rfl, run_cons rfl]
      apply first
      rw [List.length_cons]
      dsimp only
      omega
    -- The key is not among those read before, so its member comes last.
    have fresh : key ∉ before.names := by
      intro known
      have names : Fields.names (before ++ (key, value) :: others) =
          before.names ++ key :: Fields.names others := by
        simp [Fields.names]
      rw [Fields.Distinct, names] at distinct
      exact List.disjoint_of_nodup_append distinct known List.mem_cons_self
    have added := Fields.insert_of_not_mem fresh value
    cases others with
    | nil =>
      rw [memberTokens, run_append taken, run_cons rfl, added]
      rfl
    | cons next others =>
      have spelled : memberTokens ((key, value) :: next :: others) ++ [.closeObject] =
          (.string key :: .colon :: value.tokens) ++
            .comma :: (memberTokens (next :: others) ++ [.closeObject]) := by
        simp [memberTokens]
      rw [spelled, run_append taken, run_cons rfl, added,
        ih later (before ++ [(key, value)]) (by simpa using distinct) (by simp) (by omega)]
      simp

theorem run_congr {other : State} {token : Token} (same : state.step token = other.step token)
    (later : List Token) : state.run (token :: later) = other.run (token :: later) := by
  rw [run, run, List.foldlM_cons, List.foldlM_cons, same]

theorem tokens_head (v : Json) :
    ∃ token later, v.tokens = token :: later ∧ token ≠ .closeArray := by
  cases v with
  | null => exact ⟨_, _, rfl, nofun⟩
  | bool b => exact ⟨_, _, rfl, nofun⟩
  | number n => exact ⟨_, _, rfl, nofun⟩
  | string s => exact ⟨_, _, rfl, nofun⟩
  | array items => exact ⟨_, _, rfl, nofun⟩
  | object members => exact ⟨_, _, rfl, nofun⟩

/-- The first item of an array is read like the others. -/
theorem run_firstItem (item : Json) (others : List Json) (later : List Token) :
    (State.firstItem frames).run (itemTokens (item :: others) ++ later) =
      (State.value (.array [] :: frames)).run (itemTokens (item :: others) ++ later) := by
  obtain ⟨token, following, spelled, other⟩ := tokens_head item
  have same : (State.firstItem frames).step token =
      (State.value (.array [] :: frames)).step token := by
    cases token with
    | closeArray => contradiction
    | _ => rfl
  cases others with
  | nil =>
    rw [itemTokens, spelled, List.cons_append]
    exact run_congr same _
  | cons next others =>
    rw [itemTokens, spelled, List.cons_append, List.cons_append]
    exact run_congr same _

theorem run_firstKey (member : String × Json) (others : Fields Json) (later : List Token) :
    (State.firstKey frames).run (memberTokens (member :: others) ++ later) =
      (State.nextKey frames []).run (memberTokens (member :: others) ++ later) := by
  cases others with
  | nil => exact run_congr rfl _
  | cons next others => exact run_congr rfl _

theorem takes_of_exact {v : Json} (exact : v.Exact) : Takes v := by
  induction exact with
  | null => exact fun _ => rfl
  | bool b => exact fun _ => rfl
  | integer n => exact fun _ => rfl
  | string s => exact fun _ => rfl
  | @array items each ih =>
    intro frames fits
    rw [depth] at fits
    have opened : (State.value frames).step .openArray = some (.firstItem frames) :=
      if_pos (by omega)
    rw [tokens, List.cons_append, run_cons opened]
    cases items with
    | nil => rfl
    | cons item others =>
      rw [run_firstItem, run_items ih [] (by simp) (by omega)]
      rfl
  | @object members distinct each ih =>
    intro frames fits
    rw [depth] at fits
    have opened : (State.value frames).step .openObject = some (.firstKey frames) :=
      if_pos (by omega)
    rw [tokens, List.cons_append, run_cons opened]
    cases members with
    | nil => rfl
    | cons member others =>
      rw [run_firstKey, run_members ih [] distinct (by simp) (by omega)]
      rfl

end State

theorem ofTokens?_tokens {v : Json} (exact : v.Exact) (fits : v.depth ≤ depthLimit) :
    ofTokens? v.tokens = some v := by
  have taken : (State.value []).run v.tokens = some (.after [] v) :=
    State.takes_of_exact exact (by simpa using fits)
  rw [ofTokens?, taken]
  rfl

end Running

theorem parse?_of_reads {v : Json} {text : String} (exact : v.Exact) (fits : v.depth ≤ depthLimit)
    (reads : Token.Reads text.toList v.tokens []) : parse? text = some v := by
  rw [parse?, reads.scan_eq]
  exact ofTokens?_tokens exact fits

theorem parse?_compact {v : Json} (exact : v.Exact) (fits : v.depth ≤ depthLimit) :
    parse? v.compact = some v := by
  apply parse?_of_reads exact fits
  simpa [compact] using reads_compactText exact endsNumber_nil

theorem endsNumber_of_blank {gap : List Char} (blank : ∀ c ∈ gap, Token.isBlank c = true) :
    EndsNumber gap := by
  intro c first
  have among := blank c (List.mem_of_mem_head? first)
  simp only [Token.isBlank, Bool.or_eq_true, decide_eq_true_eq] at among
  rcases among with ((rfl | rfl) | rfl) | rfl
  all_goals rfl

/-- The indented text reads as its value, whatever blanks follow it. -/
theorem parse?_pretty_append {v : Json} (exact : v.Exact) (fits : v.depth ≤ depthLimit)
    (gap : String) (blank : ∀ c ∈ gap.toList, Token.isBlank c = true) :
    parse? (v.pretty ++ gap) = some v := by
  apply parse?_of_reads exact fits
  have value := reads_indentedText exact 0 (endsNumber_of_blank blank)
  have trailing : Token.Reads (gap.toList ++ []) [] [] := .blanks blank .done
  rw [List.append_nil] at trailing
  simpa [pretty] using value.append trailing

theorem parse?_pretty {v : Json} (exact : v.Exact) (fits : v.depth ≤ depthLimit) :
    parse? v.pretty = some v := by
  simpa using parse?_pretty_append exact fits "" (by simp)

end Json

namespace Archive

/-- A value without floats and repeated names, nested no deeper than 127 levels,
comes back from its compact text. The reading counts as one document and leaves the
kept values alone. -/
theorem read_compact (archive : Archive) (v : Json) (exact : v.Exact) (shallow : v.depth ≤ 127) :
    archive.read v.compact = (v, { archive with documents := archive.documents + 1 }) := by
  simp only [read, Json.parse?_compact exact shallow]

/-- The value inside as many arrays. -/
def nested : Nat → Json → Json
  | 0, v => v
  | n + 1, v => .array [nested n v]

theorem depth_nested (n : Nat) (v : Json) : (nested n v).depth = n + v.depth := by
  induction n with
  | zero => rw [nested, Nat.zero_add]
  | succ n ih =>
    rw [nested, Json.depth, Json.depthItems, Json.depthItems, ih]
    omega

theorem exact_nested (n : Nat) {v : Json} (exact : v.Exact) : (nested n v).Exact := by
  induction n with
  | zero => exact exact
  | succ n ih => exact .array (by simpa [nested] using ih)

/-- Both ends of the integers, text that needs every kind of escape, and an empty
array under names that are not in alphabetical order. -/
def extremes : Json :=
  .object
    [("upper", .ofInt 18446744073709551615 (by decide)),
      ("lower", .ofInt (-9223372036854775808) (by decide)),
      ("", .string "\"\\\n\x01\x7f/😀"), ("empty", .array [])]

theorem read_extremes :
    (nested 125 extremes).Exact ∧ (nested 125 extremes).depth = 127 ∧
      (empty.read (nested 125 extremes).compact).1 = nested 125 extremes ∧
      (empty.read (nested 125 extremes).compact).2.documents = 1 := by
  have exact : (nested 125 extremes).Exact := by
    apply exact_nested
    refine .object (by simp [Fields.Distinct, Fields.names]) ?_
    intro member among
    simp only [List.mem_cons, List.not_mem_nil, or_false] at among
    rcases among with rfl | rfl | rfl | rfl
    · exact .integer _
    · exact .integer _
    · exact .string _
    · exact .array (by simp)
  have deep : (nested 125 extremes).depth = 127 := by
    rw [depth_nested]
    rfl
  have read := read_compact empty _ exact (Nat.le_of_eq deep)
  exact ⟨exact, deep, congrArg Prod.fst read, congrArg (fun result => result.2.documents) read⟩

end Archive

end Assay
