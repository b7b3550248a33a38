/-
# `OpShape.Proofs.Manifest` — a manifest is read back from its own text.

What is written of a manifest is a plain value, and each of its parts is recognised as what it was
written from: outputs that are missing, an empty list of outputs and an output without sizes are
told apart, and so is a size that is left open from every number.
-/
import OpShape.Manifest
import OpShape.Proofs.Json.Read
import OpShape.Proofs.Json.Record

namespace OpShape

open Json (Value)

/-! ## Invocations -/

namespace InvocationEntry

/-- All sizes fit sixty-four bits. -/
def InRange (entry : InvocationEntry) : Prop :=
  ∀ outputs ∈ entry.outputs, ∀ sizes ∈ outputs, ∀ size ∈ sizes, ∀ n ∈ size, n < Nat.pow 2 64

theorem plain_toJson (entry : InvocationEntry) : entry.toJson.Plain := by
  have houtputs : (Value.ofOption outputsJson entry.outputs).Plain :=
    .ofOption fun _ => .array_map fun _ => .array_map fun _ => .ofOption .natural
  refine .members ?_
  simp only [List.forall_mem_cons]
  exact ⟨.text _, .bool _, houtputs, List.forall_mem_nil _⟩

/-- Outputs are recognised, missing or not. -/
theorem outputsOf?_outputsJson {outputs : List (List (Option Nat))}
    (h : ∀ sizes ∈ outputs, ∀ size ∈ sizes, ∀ n ∈ size, n < Nat.pow 2 64) :
    outputsOf? (outputsJson outputs) = some outputs := by
  refine Value.list?_array_map fun sizes hsizes => ?_
  refine Value.list?_array_map fun size hsize => ?_
  refine Value.option?_ofOption (fun _ => nofun) fun n hn => ?_
  exact Value.below?_natural (h sizes hsizes size hsize n hn)

/-- **An invocation is read from its own object.** -/
theorem ofJson?_toJson {entry : InvocationEntry} (h : entry.InRange) :
    ofJson? entry.toJson = some entry := by
  have hrecord : entry.toJson.record? ["call", "expect_error", "outputs"] = some [
      some (.ofText entry.call), some (.bool entry.expectError),
      some (.ofOption outputsJson entry.outputs)] :=
    Value.record?_ofMembers (by simp)
  have houtputs : (Value.ofOption outputsJson entry.outputs).option? outputsOf? =
      some entry.outputs :=
    Value.option?_ofOption (fun _ => nofun) fun outputs houtputs =>
      outputsOf?_outputsJson (h outputs houtputs)
  simp [ofJson?, hrecord, houtputs]

end InvocationEntry

/-! ## Functions -/

namespace FunctionEntry

theorem plain_toJson (entry : FunctionEntry) : entry.toJson.Plain := by
  refine .members ?_
  simp only [List.forall_mem_cons]
  exact ⟨.text _, .text _, .bool _, .array_map InvocationEntry.plain_toJson, List.forall_mem_nil _⟩

/-- **A function is read from its own object.** -/
theorem ofJson?_toJson {entry : FunctionEntry}
    (h : ∀ invocation ∈ entry.invocations, invocation.InRange) :
    ofJson? entry.toJson = some entry := by
  have hrecord : entry.toJson.record? ["op", "signature", "registry_exempt", "invocations"] = some [
      some (.ofText entry.op), some (.ofText entry.signature), some (.bool entry.registryExempt),
      some (.array (entry.invocations.map InvocationEntry.toJson))] :=
    Value.record?_ofMembers (by simp)
  have hinvocations : (Value.array (entry.invocations.map InvocationEntry.toJson)).list?
      InvocationEntry.ofJson? = some entry.invocations :=
    Value.list?_array_map fun invocation hinvocation =>
      InvocationEntry.ofJson?_toJson (h invocation hinvocation)
  simp [ofJson?, hrecord, hinvocations]

end FunctionEntry

/-! ## Manifests -/

namespace Manifest

/-- The version fits thirty-two bits, and all sizes fit sixty-four bits. -/
structure InRange (manifest : Manifest) : Prop where
  version : manifest.version < Nat.pow 2 32
  sizes : ∀ function ∈ manifest.functions, ∀ invocation ∈ function.invocations, invocation.InRange

theorem plain_toJson (manifest : Manifest) : manifest.toJson.Plain := by
  refine .members ?_
  simp only [List.forall_mem_cons]
  exact ⟨.natural _, .array_map FunctionEntry.plain_toJson, List.forall_mem_nil _⟩

theorem ofJson?_toJson {manifest : Manifest} (h : manifest.InRange) :
    ofJson? manifest.toJson = some manifest := by
  have hrecord : manifest.toJson.record? ["version", "functions"] = some [
      some (.natural manifest.version),
      some (.array (manifest.functions.map FunctionEntry.toJson))] :=
    Value.record?_ofMembers (by simp)
  have hfunctions : (Value.array (manifest.functions.map FunctionEntry.toJson)).list?
      FunctionEntry.ofJson? = some manifest.functions :=
    Value.list?_array_map fun function hfunction =>
      FunctionEntry.ofJson?_toJson (h.sizes function hfunction)
  simp [ofJson?, hrecord, hfunctions, Value.below?_natural h.version]

theorem ofText?_text {manifest : Manifest} (h : manifest.InRange) :
    ofText? manifest.text = some manifest := by
  rw [ofText?, text, Value.parse?_pretty manifest.plain_toJson]
  exact ofJson?_toJson h

/-- **A manifest is read back from its text**, and no other manifest has this text. -/
theorem determined_by_text {manifest other : Manifest} (h : manifest.InRange)
    (hother : other.InRange) :
    ofText? manifest.text = some manifest ∧ (other.text = manifest.text → other = manifest) := by
  refine ⟨ofText?_text h, fun htext => ?_⟩
  have hread : some other = some manifest := by
    rw [← ofText?_text hother, htext, ofText?_text h]
  exact Option.some.inj hread

/-- A manifest with the largest version, and with marks, control characters and signs of many
alphabets in its texts. -/
def awkward (outputs : Option (List (List (Option Nat)))) : Manifest where
  version := Nat.pow 2 32 - 1
  functions := [{
    op := "\"::\\"
    signature := "\x00\x01\x08\x0c\n\r\t\x1f\x7f"
    registryExempt := true
    invocations := [
      { call := "", expectError := true, outputs := none },
      { call := "/é→𝄞", expectError := false, outputs := outputs }] }]

theorem inRange_awkward {outputs : Option (List (List (Option Nat)))}
    (h : ∀ shapes ∈ outputs, ∀ sizes ∈ shapes, ∀ size ∈ sizes, ∀ n ∈ size, n < Nat.pow 2 64) :
    (awkward outputs).InRange where
  version := Nat.sub_one_lt (by decide)
  sizes := by simpa [awkward, InvocationEntry.InRange] using h

/-- Missing outputs, no outputs, an output without sizes, and sizes of both kinds. -/
theorem determined_by_text_awkward :
    ofText? (awkward (some [[none, some (Nat.pow 2 64 - 1)], []])).text =
        some (awkward (some [[none, some (Nat.pow 2 64 - 1)], []])) ∧
      (awkward none).text ≠ (awkward (some [])).text ∧
      (awkward (some [])).text ≠ (awkward (some [[]])).text := by
  have hfull : (awkward (some [[none, some (Nat.pow 2 64 - 1)], []])).InRange :=
    inRange_awkward (by simp)
  have hnone : (awkward none).InRange := inRange_awkward (by simp)
  have hempty : (awkward (some [])).InRange := inRange_awkward (by simp)
  have hscalar : (awkward (some [[]])).InRange := inRange_awkward (by simp)
  refine ⟨(determined_by_text hfull hfull).1, fun htext => ?_, fun htext => ?_⟩
  · have heq := (determined_by_text hempty hnone).2 htext
    simp [awkward] at heq
  · have heq := (determined_by_text hscalar hempty).2 htext
    simp [awkward] at heq

end Manifest

end OpShape
