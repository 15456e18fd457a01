import Assay.Record

/-! Small fixed data for trials. -/
namespace Assay.Sample

def user (id : Int) (name : String) (age : Int)
    (id_fits : -9223372036854775808 ≤ id ∧ id ≤ 18446744073709551615)
    (age_fits : -9223372036854775808 ≤ age ∧ age ≤ 18446744073709551615) : Record :=
  [("id", .ofInt id id_fits), ("name", .string name), ("age", .ofInt age age_fits)]

def users : List Record :=
  [user 1 "Alice" 30 (by decide) (by decide), user 2 "Bob" 25 (by decide) (by decide),
    user 3 "Charlie" 35 (by decide) (by decide)]

/-- One text, one integer and one list. -/
def profile : Fields Json :=
  [("name", .string "Alice"), ("age", .ofInt 30 (by decide)),
    ("scores", .array [.ofInt 85 (by decide), .ofInt 92 (by decide), .ofInt 78 (by decide)])]

end Assay.Sample
