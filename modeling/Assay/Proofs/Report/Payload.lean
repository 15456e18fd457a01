import Assay.CommandLine.Execute
import Assay.Proofs.Json.RoundTrip
import Assay.Report.Decode

/-! The JSON form of a report keeps all of it. The printed text is a document with
the suites and the checks of the report, and no two reports have the same text,
whatever their names and messages hold. -/
namespace Assay

open CommandLine (printed)

namespace Finding

/-- The members of the object that tells a finding. -/
def members (finding : Finding) : Fields Json :=
  [("suite", finding.suite.toJson), ("check", .string finding.check)] ++ finding.outcome.members

/-- What the members tell of a finding: a message stands among them when the check
has failed, and only then. -/
structure Describes (finding : Finding) (members : Fields Json) : Prop where
  names : members.names =
    if finding.passed then ["suite", "check", "status"]
    else ["suite", "check", "status", "message"]
  suite : members.get? "suite" = some (.string finding.suite.name)
  check : members.get? "check" = some (.string finding.check)
  status : members.get? "status" =
    some (.string (if finding.passed then "passed" else "failed"))
  message : ∀ text, members.get? "message" = some (.string text) ↔ finding.outcome = .failed text

theorem members_describe (finding : Finding) : finding.Describes finding.members := by
  obtain ⟨suite, check, outcome⟩ := finding
  cases outcome with
  | passed => exact ⟨rfl, congrArg some suite.toJson_eq, rfl, rfl, fun _ => ⟨nofun, nofun⟩⟩
  | failed message =>
    refine ⟨rfl, congrArg some suite.toJson_eq, rfl, rfl, fun text => ?_⟩
    simp [members, Outcome.members, Fields.get?]

theorem members_text (finding : Finding) :
    ∀ entry ∈ finding.members, ∃ text, entry.2 = .string text := by
  obtain ⟨suite, check, outcome⟩ := finding
  cases outcome with
  | passed => simp [members, Outcome.members, Suite.toJson]
  | failed message => simp [members, Outcome.members, Suite.toJson]

theorem toJson_exact (finding : Finding) : finding.toJson.Exact := by
  refine .object ?_ ?_
  · have names := finding.members_describe.names
    rw [Fields.Distinct]
    change finding.members.names.Nodup
    rw [names]
    split
    · decide
    · decide
  · intro entry member
    obtain ⟨text, value⟩ := finding.members_text entry member
    rw [value]
    exact .string text

theorem depth_toJson (finding : Finding) : finding.toJson.depth = 1 := by
  obtain ⟨suite, check, outcome⟩ := finding
  cases outcome with
  | passed => rfl
  | failed message => rfl

end Finding

namespace Report

theorem toJson_exact (report : Report) : report.toJson.Exact := by
  have suites : (Json.array (report.suites.map Suite.toJson)).Exact := by
    refine .array ?_
    intro item member
    obtain ⟨suite, _, rfl⟩ := List.mem_map.mp member
    exact .string suite.tag
  have checks : (Json.array (report.findings.map Finding.toJson)).Exact := by
    refine .array ?_
    intro item member
    obtain ⟨finding, _, rfl⟩ := List.mem_map.mp member
    exact finding.toJson_exact
  refine .object (by simp [Fields.Distinct, Fields.names]) ?_
  intro entry member
  simp only [List.mem_cons, List.not_mem_nil, or_false] at member
  rcases member with rfl | rfl
  · exact suites
  · exact checks

theorem depth_toJson_le (report : Report) : report.toJson.depth ≤ 127 := by
  have suites : Json.depthItems (report.suites.map Suite.toJson) ≤ 0 := by
    apply Json.depthItems_le
    intro item member
    obtain ⟨suite, _, rfl⟩ := List.mem_map.mp member
    exact Nat.le_refl 0
  have checks : Json.depthItems (report.findings.map Finding.toJson) ≤ 1 := by
    apply Json.depthItems_le
    intro item member
    obtain ⟨finding, _, rfl⟩ := List.mem_map.mp member
    exact Nat.le_of_eq finding.depth_toJson
  simp only [toJson, Json.depth, Json.depthMembers]
  omega

theorem parse?_prettyJson (report : Report) :
    Json.parse? report.prettyJson = some report.toJson :=
  Json.parse?_pretty report.toJson_exact report.depth_toJson_le

theorem parse?_printed (report : Report) :
    Json.parse? (printed true report) = some report.toJson :=
  Json.parse?_pretty_append report.toJson_exact report.depth_toJson_le "\n"
    (by simp [Json.Token.isBlank])

theorem toJson_eq (report : Report) :
    report.toJson = .object
      [("suites", .array (report.suites.map fun suite => .string suite.name)),
        ("checks", .array ((report.findings.map Finding.members).map Json.object))] := by
  rw [toJson, funext Suite.toJson_eq, List.map_map]
  rfl

theorem toJson_injective {report other : Report} (same : other.toJson = report.toJson) :
    other = report := by
  have decoded := congrArg ofJson? same
  rw [ofJson?_toJson, ofJson?_toJson] at decoded
  exact Option.some.inj decoded

/-- The payload of a report is an object with its suites and its checks, in this
order, from which the report can be decoded. So no two reports have the same payload,
and printing it as a line changes neither fact. -/
theorem payload_decodes (report : Report) :
    (∃ checks : List (Fields Json),
      Json.parse? report.prettyJson = some (.object
        [("suites", .array (report.suites.map fun suite => .string suite.name)),
          ("checks", .array (checks.map Json.object))]) ∧
      List.Forall₂ Finding.Describes report.findings checks) ∧
    (Json.parse? report.prettyJson).bind Report.ofJson? = some report ∧
    (∀ other : Report, other.prettyJson = report.prettyJson → other = report) ∧
    Json.parse? (printed true report) = Json.parse? report.prettyJson ∧
    (∀ other : Report, printed true other = printed true report → other = report) := by
  have payload := report.parse?_prettyJson
  have line := report.parse?_printed
  refine ⟨⟨report.findings.map Finding.members, ?_, ?_⟩, ?_, ?_, line.trans payload.symm, ?_⟩
  · rw [payload, toJson_eq]
  · rw [List.forall₂_map_right_iff, List.forall₂_same]
    exact fun finding _ => finding.members_describe
  · rw [payload]
    exact report.ofJson?_toJson
  · intro other same
    rw [← same, other.parse?_prettyJson] at payload
    exact toJson_injective (Option.some.inj payload)
  · intro other same
    rw [← same, other.parse?_printed] at line
    exact toJson_injective (Option.some.inj line)

end Report

end Assay
