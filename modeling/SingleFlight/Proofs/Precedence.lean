import Mathlib.Tactic.Common
import SingleFlight.Status.Extraction

/-!
Which artifact has the say on which point. Main statement: what the artifacts in a directory say of a run is settled
by one order of precedence for each point, whichever of them there are.
-/

namespace SingleFlight.Status

open Files Text

variable {tree : Tree} {directory : Path}

section Hearing

variable (known : Findings) (source : Option Findings)

/-- What is known once a source has been heard, if there is one. -/
def Findings.heard : Findings := source.elim known known.fillFrom

/-- What is known once a marker has been seen, if there is one. -/
def Findings.marked : Findings := source.elim known known.overrideWith

theorem Findings.heard_eq : known.heard source =
    ⟨known.status.or (source.bind (·.status)), known.errorClass.or (source.bind (·.errorClass)),
      known.instruction.or (source.bind (·.instruction)), known.accessUrl.or (source.bind (·.accessUrl))⟩ := by
  cases source with
  | none => simp [Findings.heard]
  | some found => rfl

theorem Findings.marked_eq : known.marked source =
    ⟨(source.bind (·.status)).or known.status, known.errorClass.or (source.bind (·.errorClass)),
      (source.bind (·.instruction)).or known.instruction, (source.bind (·.accessUrl)).or known.accessUrl⟩ := by
  cases source with
  | none => simp [Findings.marked]
  | some found => rfl

end Hearing

section Sources

/-- What a file of a directory says that is written as an object, if it is there and can be read. -/
def findingsAt? (tree : Tree) (directory : Path) (file : String) : Option Findings :=
  (tree.read (directory.join file)).toOption.bind findingsIn?

theorem read?_eq (source : Source) :
    source.read? tree directory = (tree.read (directory.join source.fileName)).toOption.bind source.interpret? := by
  unfold Source.read?
  cases tree.read (directory.join source.fileName) <;> rfl

theorem read?_eq_some {source : Source} {found : Findings} : source.read? tree directory = some found ↔
    ∃ content, tree.read (directory.join source.fileName) = .ok content ∧ source.interpret? content = some found := by
  rw [read?_eq]
  cases tree.read (directory.join source.fileName) <;> simp [Except.toOption]

theorem read?_waitingMarker : Source.waitingMarker.read? tree directory =
    (findingsAt? tree directory "waiting_for_human.json").map fun found =>
      { found with status := some "waiting_for_human" } := by
  rw [read?_eq, findingsAt?, Option.map_bind]
  rfl

theorem read?_gatewayResult : Source.gatewayResult.read? tree directory =
    (findingsAt? tree directory "gateway_result.json").map fun found =>
      { Findings.nothing with errorClass := found.errorClass } := by
  rw [read?_eq, findingsAt?, Option.map_bind]
  rfl

theorem status_of_waitingMarker : (Source.waitingMarker.read? tree directory).bind (·.status) =
    if (Source.waitingMarker.read? tree directory).isSome then some "waiting_for_human" else none := by
  rw [read?_waitingMarker]
  cases findingsAt? tree directory "waiting_for_human.json" <;> rfl

theorem read?_proof : Source.proof.read? tree directory =
    (findingsAt? tree directory "proof.json").map fun found =>
      { found with status := found.status.or (some "success") } := by
  rw [read?_eq, findingsAt?, Option.map_bind]
  rfl

/-- A proof has a status: the one that it names, or that of a run that succeeded. -/
theorem status_of_proof : (Source.proof.read? tree directory).bind (·.status) =
    (findingsAt? tree directory "proof.json").map fun found => found.status.getD "success" := by
  rw [read?_proof]
  cases findingsAt? tree directory "proof.json" with
  | none => rfl
  | some found => cases named : found.status <;> simp [named]

/-- The gateway is heard on the class of an error and on nothing else. -/
theorem errorClass_of_gatewayResult {found : Findings} (read : Source.gatewayResult.read? tree directory = some found) :
    found = { Findings.nothing with errorClass := found.errorClass } := by
  rw [read?_gatewayResult, Option.map_eq_some_iff] at read
  obtain ⟨said, _, rfl⟩ := read
  rfl

end Sources

section Steps

-- The equation of `gather` as a whole: those of its cases take long to derive.
variable (tree directory) (rest : List Source) (known : Findings)

theorem gather_plain {source : Source} (plain : source = .result ∨ source = .gatewayResult) :
    gather tree directory (source :: rest) known =
      gather tree directory rest (known.heard (source.read? tree directory)) := by
  rw [gather.eq_def]
  dsimp only
  rcases plain with rfl | rfl
  · cases Source.result.read? tree directory <;> rfl
  · cases Source.gatewayResult.read? tree directory <;> rfl

theorem gather_waitingMarker : gather tree directory (.waitingMarker :: rest) known =
    gather tree directory rest (known.marked (Source.waitingMarker.read? tree directory)) := by
  rw [gather.eq_def]
  dsimp only
  cases Source.waitingMarker.read? tree directory <;> rfl

theorem gather_proof : gather tree directory (.proof :: rest) known =
    (Source.proof.read? tree directory).elim (gather tree directory rest known) known.fillFrom := by
  rw [gather.eq_def]
  dsimp only
  cases Source.proof.read? tree directory <;> rfl

theorem gather_output : gather tree directory (.output :: rest) known =
    gather tree directory rest
      (if known.status.isSome then known else known.heard (Source.output.read? tree directory)) := by
  rw [gather.eq_def]
  dsimp only
  cases known.status.isSome with
  | true => rfl
  | false => cases Source.output.read? tree directory <;> rfl

end Steps

section Precedence

/-- What the first of several sources says that says anything on a point. -/
def firstSaid (point : Findings → Option String) (sources : List (Option Findings)) : Option String :=
  sources.findSome? (·.bind point)

@[simp]
theorem firstSaid_nil (point : Findings → Option String) : firstSaid point [] = none := rfl

@[simp]
theorem firstSaid_cons (point : Findings → Option String) (source : Option Findings) (rest : List (Option Findings)) :
    firstSaid point (source :: rest) = (source.bind point).or (firstSaid point rest) := by
  rw [firstSaid, List.findSome?_cons]
  cases source.bind point <;> rfl

/-- What is known before a proof is looked at. -/
def beforeProof (result marker : Option Findings) : Findings := (Findings.nothing.heard result).marked marker

theorem beforeProof_eq (result marker : Option Findings) : beforeProof result marker =
    ⟨firstSaid (·.status) [marker, result], firstSaid (·.errorClass) [result, marker],
      firstSaid (·.instruction) [marker, result], firstSaid (·.accessUrl) [marker, result]⟩ := by
  rw [beforeProof, Findings.marked_eq, Findings.heard_eq]
  simp [Findings.nothing]

/-- What is known if there is no proof. The output is left for when there is no status. -/
def withoutProof (result marker gateway output : Option Findings) : Findings :=
  let known := (beforeProof result marker).heard gateway
  if known.status.isSome then known else known.heard output

/-- The sources one after the other; a proof is the last of them that is heard. -/
theorem extract_eq (tree : Tree) (directory : Path) : extract tree directory =
    (Source.proof.read? tree directory).elim
      (withoutProof (Source.result.read? tree directory) (Source.waitingMarker.read? tree directory)
        (Source.gatewayResult.read? tree directory) (Source.output.read? tree directory))
      (beforeProof (Source.result.read? tree directory) (Source.waitingMarker.read? tree directory)).fillFrom := by
  rw [extract, Source.all, gather_plain _ _ _ _ (.inl rfl), gather_waitingMarker, gather_proof,
    gather_plain _ _ _ _ (.inr rfl), gather_output]
  rfl

/-- Whose word counts on each point, given what each artifact says. The output is asked only where no marker, no proof
and no status of the result is there. -/
def byPrecedence (result marker proof gateway output : Option Findings) : Findings :=
  let asked := if marker.isSome || proof.isSome || (result.bind (·.status)).isSome then none else output
  { status := if marker.isSome then some "waiting_for_human" else firstSaid (·.status) [result, proof, asked]
    errorClass :=
      firstSaid (·.errorClass) (if proof.isSome then [result, marker, proof] else [result, marker, gateway, asked])
    instruction := firstSaid (·.instruction) [marker, result, proof, asked]
    accessUrl := firstSaid (·.accessUrl) [marker, result, proof, asked] }

variable {result marker proof gateway output : Option Findings}

theorem fillFrom_eq_byPrecedence {found : Findings} (waiting : marker.bind (·.status) =
    if marker.isSome then some "waiting_for_human" else none) :
    (beforeProof result marker).fillFrom found = byPrecedence result marker (some found) gateway output := by
  rw [beforeProof_eq, Findings.fillFrom]
  cases marker with
  | none => simp [byPrecedence]
  | some marked =>
    replace waiting : marked.status = some "waiting_for_human" := waiting
    simp [byPrecedence, Option.or_assoc, waiting]

/-- The gateway has no say on whether the output is asked. -/
theorem withoutProof_eq_byPrecedence (waiting : marker.bind (·.status) =
      if marker.isSome then some "waiting_for_human" else none)
    (narrow : ∀ found, gateway = some found → found = { Findings.nothing with errorClass := found.errorClass }) :
    withoutProof result marker gateway output = byPrecedence result marker none gateway output := by
  have silent : gateway.bind (·.status) = none ∧ gateway.bind (·.instruction) = none ∧
      gateway.bind (·.accessUrl) = none := by
    cases gateway with
    | none => exact ⟨rfl, rfl, rfl⟩
    | some found =>
      rw [narrow found rfl]
      exact ⟨rfl, rfl, rfl⟩
  rw [withoutProof, beforeProof_eq, Findings.heard_eq, silent.1, silent.2.1, silent.2.2]
  cases marker with
  | none =>
    cases said : result.bind (·.status) with
    | none => simp [byPrecedence, Findings.heard_eq, Option.or_assoc, said]
    | some status => simp [byPrecedence, said]
  | some marked =>
    replace waiting : marked.status = some "waiting_for_human" := waiting
    simp [byPrecedence, Option.or_assoc, waiting]

/-- Where the output is not asked, its word on the status would not count. -/
theorem status_byPrecedence (spoken : (proof.bind (·.status)).isSome = proof.isSome) :
    (byPrecedence result marker proof gateway output).status =
      if marker.isSome then some "waiting_for_human" else firstSaid (·.status) [result, proof, output] := by
  rw [byPrecedence]
  cases marker with
  | some marked => rfl
  | none =>
    cases said : result.bind (·.status) with
    | some status => simp [said]
    | none =>
      cases proof with
      | none => simp [said]
      | some found =>
        obtain ⟨status, named⟩ := Option.isSome_iff_exists.mp spoken
        replace named : found.status = some status := named
        simp [said, named]

/-- Once there is a marker, a proof or a status of the result, the output makes no difference. -/
theorem byPrecedence_of_decided (decided : (marker.isSome || proof.isSome || (result.bind (·.status)).isSome) = true)
    (output' : Option Findings) :
    byPrecedence result marker proof gateway output' = byPrecedence result marker proof gateway output := by
  simp only [byPrecedence, decided, if_true]

/-- Beside a proof neither the gateway nor the output makes a difference. -/
theorem byPrecedence_of_proof (proven : proof.isSome = true) (gateway' output' : Option Findings) :
    byPrecedence result marker proof gateway' output' = byPrecedence result marker proof gateway output := by
  simp only [byPrecedence, proven, Bool.or_true, Bool.true_or, if_true]

theorem extract_eq_byPrecedence (tree : Tree) (directory : Path) : extract tree directory =
    byPrecedence (Source.result.read? tree directory) (Source.waitingMarker.read? tree directory)
      (Source.proof.read? tree directory) (Source.gatewayResult.read? tree directory)
      (Source.output.read? tree directory) := by
  rw [extract_eq]
  cases Source.proof.read? tree directory with
  | some found => exact fillFrom_eq_byPrecedence status_of_waitingMarker
  | none => exact withoutProof_eq_byPrecedence status_of_waitingMarker fun _ => errorClass_of_gatewayResult

end Precedence

/-- What the artifacts in a directory say of a run. On each point one order of precedence settles whose word counts. A
marker alone has the status of a run that waits for a person, and a proof that names no status has that of a run that
succeeded. The output is asked only where no marker, no proof and no status of the result is there; beside a proof
the gateway is not asked either. What is not asked makes no difference. -/
theorem extract_by_precedence (tree : Tree) (directory : Path) :
    let result := Source.result.read? tree directory
    let marker := Source.waitingMarker.read? tree directory
    let proof := Source.proof.read? tree directory
    let gateway := Source.gatewayResult.read? tree directory
    let output := Source.output.read? tree directory
    let isDecided := marker.isSome || proof.isSome || (result.bind (·.status)).isSome
    let asked := if isDecided then none else output
    (extract tree directory).status =
      (if marker.isSome then some "waiting_for_human" else firstSaid (·.status) [result, proof, output]) ∧
    (extract tree directory).errorClass =
      firstSaid (·.errorClass) (if proof.isSome then [result, marker, proof] else [result, marker, gateway, asked]) ∧
    (extract tree directory).instruction = firstSaid (·.instruction) [marker, result, proof, asked] ∧
    (extract tree directory).accessUrl = firstSaid (·.accessUrl) [marker, result, proof, asked] ∧
    proof.bind (·.status) = (findingsAt? tree directory "proof.json").map (fun found => found.status.getD "success") ∧
    (isDecided = true → ∀ other : Tree,
      (∀ source : Source, source ≠ .output → source.read? other directory = source.read? tree directory) →
        extract other directory = extract tree directory) ∧
    (proof.isSome = true → ∀ other : Tree,
      (∀ source : Source, source ≠ .output → source ≠ .gatewayResult →
        source.read? other directory = source.read? tree directory) →
      extract other directory = extract tree directory) := by
  intro result marker proof gateway output isDecided asked
  have table : extract tree directory = byPrecedence result marker proof gateway output :=
    extract_eq_byPrecedence tree directory
  have proven : proof.bind (·.status) = (findingsAt? tree directory "proof.json").map (·.status.getD "success") :=
    status_of_proof
  have elsewhere (other : Tree) : extract other directory = byPrecedence (Source.result.read? other directory)
      (Source.waitingMarker.read? other directory) (Source.proof.read? other directory)
      (Source.gatewayResult.read? other directory) (Source.output.read? other directory) :=
    extract_eq_byPrecedence other directory
  refine ⟨?status, ?errorClass, ?instruction, ?accessUrl, proven, ?decided, ?proven⟩
  case status =>
    rw [table]
    refine status_byPrecedence ?_
    rw [proven, show proof = _ from read?_proof, Option.isSome_map, Option.isSome_map]
  case errorClass => rw [table]; rfl
  case instruction => rw [table]; rfl
  case accessUrl => rw [table]; rfl
  case decided =>
    intro decided other same
    rw [elsewhere, table, same .result (by decide), same .waitingMarker (by decide), same .proof (by decide),
      same .gatewayResult (by decide)]
    exact byPrecedence_of_decided decided _
  case proven =>
    intro proven other same
    rw [elsewhere, table, same .result (by decide) (by decide), same .waitingMarker (by decide) (by decide),
      same .proof (by decide) (by decide)]
    exact byPrecedence_of_proof proven _ _

end SingleFlight.Status
