import DyunGu.Core.Tensor
import DyunGu.Graph.Collected
import DyunGu.Graph.Packet

namespace DyunGu
namespace Graph

open DyunGu.Core (ResourcePolicy usizeMax)

variable {T R M : Type}

/-!
# The budget of a sink

A sink collects packets of six kinds under one budget of packets and bytes.
The bytes of a packet are added when it is stored, and those of a tensor are
taken off again when it is drained, both with saturating arithmetic.
-/

/-- The description of a tensor, and how many bytes one result of a kind takes. -/
structure PayloadLayout (T : Type) where
  desc : T -> Core.TensorDesc
  detection : Nat
  classification : Nat
  face : Nat
  track : Nat
  ocrText : Nat

/-- A list that is in memory takes no more bytes than a machine word counts. -/
def Packet.ownedBytesEstimate (layout : PayloadLayout T) (packet : Packet T R M) :
    Except Error Nat :=
  match packet.payload with
  | .tensor value => (layout.desc value).storageBytes.mapError fun error => .core error.toText
  | .detections values => .ok (values.length * layout.detection)
  | .classifications values => .ok (values.length * layout.classification)
  | .faces values => .ok (values.length * layout.face)
  | .tracks values => .ok (values.length * layout.track)
  | .ocr values => .ok (values.length * layout.ocrText)
  | .endOfStream => .ok 0

/-- A collector with all that it counts. -/
structure MeteredCollector (T R : Type) extends SinkCollector T where
  detections : List (List R)
  classifications : List (List R)
  faces : List (List R)
  tracks : List (List R)
  ocr : List (List R)
  currentBytes : Nat
deriving DecidableEq, Repr

namespace MeteredCollector

/-- `SinkCollector::default()` with its budget set. -/
def new (maxPackets maxBytes : Nat) : MeteredCollector T R where
  tensors := []
  maxPackets := maxPackets
  maxBytes := maxBytes
  detections := []
  classifications := []
  faces := []
  tracks := []
  ocr := []
  currentBytes := 0

def totalPackets (collector : MeteredCollector T R) : Nat :=
  collector.tensors.length + collector.detections.length + collector.classifications.length +
    collector.faces.length + collector.tracks.length + collector.ocr.length

def store (collector : MeteredCollector T R) :
    PacketPayload T R -> Option (MeteredCollector T R)
  | .tensor value => some { collector with tensors := collector.tensors ++ [value] }
  | .detections values => some { collector with detections := collector.detections ++ [values] }
  | .classifications values =>
      some { collector with classifications := collector.classifications ++ [values] }
  | .faces values => some { collector with faces := collector.faces ++ [values] }
  | .tracks values => some { collector with tracks := collector.tracks ++ [values] }
  | .ocr values => some { collector with ocr := collector.ocr ++ [values] }
  | .endOfStream => none

variable (layout : PayloadLayout T)

/-- The answer, and the collector afterwards: the bytes are counted before it
is known whether the packet can be stored. -/
def tryPush (collector : MeteredCollector T R) (packet : Packet T R M) :
    Except Error Unit × MeteredCollector T R :=
  if collector.maxPackets <= collector.totalPackets then
    (.error (.resourceLimit "sink packet count" (min (collector.totalPackets + 1) usizeMax)
      collector.maxPackets), collector)
  else
    match packet.ownedBytesEstimate layout with
    | .error error => (.error error, collector)
    | .ok bytes =>
        let newBytes := min (collector.currentBytes + bytes) usizeMax
        if collector.maxBytes < newBytes then
          (.error (.resourceLimit "sink bytes" newBytes collector.maxBytes), collector)
        else
          let charged := { collector with currentBytes := newBytes }
          match charged.store packet.payload with
          | some stored => (.ok (), stored)
          | none => (.error (.runtime "expected tensor or detections payload"), charged)

def drainTensors (collector : MeteredCollector T R) : MeteredCollector T R × List T :=
  ({ collector with
      tensors := []
      currentBytes := collector.tensors.foldl
        (fun currentBytes tensor =>
          match (layout.desc tensor).storageBytes with
          | .ok bytes => currentBytes - bytes
          | .error _ => currentBytes)
        collector.currentBytes }, collector.tensors)

/-! ## The bytes held -/

/-- The bytes of a tensor; one that is collected has them. -/
def tensorBytes (tensor : T) : Nat :=
  match (layout.desc tensor).storageBytes with
  | .ok bytes => bytes
  | .error _ => 0

/-- The bytes of the packets that are not tensors. -/
def resultBytes (collector : MeteredCollector T R) : Nat :=
  (collector.detections.map fun values => values.length * layout.detection).sum +
    (collector.classifications.map fun values => values.length * layout.classification).sum +
    (collector.faces.map fun values => values.length * layout.face).sum +
    (collector.tracks.map fun values => values.length * layout.track).sum +
    (collector.ocr.map fun values => values.length * layout.ocrText).sum

def heldBytes (collector : MeteredCollector T R) : Nat :=
  (collector.tensors.map (tensorBytes layout)).sum + resultBytes layout collector

/-- The collector is within a budget, and counts what it holds. -/
structure Accounted (maxPackets maxBytes : Nat) (collector : MeteredCollector T R) : Prop where
  packetBudget : collector.maxPackets = maxPackets
  byteBudget : collector.maxBytes = maxBytes
  measured : forall tensor, tensor ∈ collector.tensors ->
    (layout.desc tensor).storageBytes = .ok (tensorBytes layout tensor)
  bytes : collector.currentBytes = heldBytes layout collector
  withinBytes : collector.currentBytes <= maxBytes
  withinPackets : collector.totalPackets <= maxPackets

variable {layout} {maxPackets maxBytes : Nat}

theorem new_accounted : (new maxPackets maxBytes : MeteredCollector T R).Accounted layout
    maxPackets maxBytes where
  packetBudget := rfl
  byteBudget := rfl
  measured := fun _ impossible => (List.not_mem_nil impossible).elim
  bytes := rfl
  withinBytes := Nat.zero_le _
  withinPackets := Nat.zero_le _

/-- Storing a packet of known size adds it at the end of the packets of its
kind. -/
private theorem store_held {collector stored : MeteredCollector T R} {packet : Packet T R M}
    {bytes : Nat} (size : packet.ownedBytesEstimate layout = .ok bytes)
    (isStored : collector.store packet.payload = some stored) :
    stored.maxPackets = collector.maxPackets ∧ stored.maxBytes = collector.maxBytes ∧
      stored.currentBytes = collector.currentBytes ∧
      heldBytes layout stored = heldBytes layout collector + bytes ∧
      stored.totalPackets = collector.totalPackets + 1 ∧
      stored.tensors = collector.tensors ++ packet.tensorRef.toList ∧
      forall tensor, packet.tensorRef = some tensor ->
        (layout.desc tensor).storageBytes = .ok (tensorBytes layout tensor) := by
  rcases packet with ⟨metadata, payload⟩
  cases payload with
  | tensor value =>
      cases isStored
      have known : (layout.desc value).storageBytes = .ok bytes := by
        unfold Packet.ownedBytesEstimate at size
        cases sized : (layout.desc value).storageBytes with
        | error error => simp [sized, Except.mapError] at size
        | ok found => simpa [sized, Except.mapError] using size
      have isBytes : tensorBytes layout value = bytes := by
        unfold tensorBytes
        rw [known]
      refine ⟨rfl, rfl, rfl, ?_, ?_, rfl, ?_⟩
      · simp [heldBytes, resultBytes, isBytes]
        omega
      · simp [totalPackets]
        omega
      · intro tensor same
        cases same
        rw [known, isBytes]
  | endOfStream => cases isStored
  | _ =>
      cases isStored
      cases size
      refine ⟨rfl, rfl, rfl, ?_, ?_, (List.append_nil _).symm, nofun⟩
      · simp [heldBytes, resultBytes]
        omega
      · simp [totalPackets]
        omega

/-- A push stores the packet within the budget, or it fails and changes
nothing. -/
theorem tryPush_cases (collector : MeteredCollector T R) (packet : Packet T R M)
    (small : collector.maxBytes < usizeMax) :
    (Exists fun error => collector.tryPush layout packet = (.error error, collector)) ∨
      Exists fun bytes => Exists fun stored =>
        collector.tryPush layout packet = (.ok (), stored) ∧
        packet.ownedBytesEstimate layout = .ok bytes ∧
        collector.totalPackets < collector.maxPackets ∧
        collector.currentBytes + bytes <= collector.maxBytes ∧
        ({ collector with currentBytes := collector.currentBytes + bytes }).store
          packet.payload = some stored := by
  unfold tryPush
  split
  · exact Or.inl ⟨_, rfl⟩
  · rename_i room
    split
    · rename_i error _
      exact Or.inl ⟨error, rfl⟩
    · rename_i bytes size
      dsimp only
      split
      · exact Or.inl ⟨_, rfl⟩
      · rename_i fits
        have exact : min (collector.currentBytes + bytes) usizeMax =
            collector.currentBytes + bytes := by
          omega
        rw [exact] at fits ⊢
        split
        · rename_i stored isStored
          exact Or.inr ⟨bytes, stored, rfl, size, by omega, by omega, isStored⟩
        · rename_i refused
          -- only the end marker is refused, and it has no bytes
          have isEos : bytes = 0 := by
            rcases packet with ⟨metadata, payload⟩
            cases payload with
            | endOfStream => exact (Except.ok.inj size).symm
            | _ => cases refused
          subst isEos
          exact Or.inl ⟨_, rfl⟩

theorem tryPush_failed {collector : MeteredCollector T R} (small : collector.maxBytes < usizeMax)
    {packet : Packet T R M} {error : Error}
    (failed : (collector.tryPush layout packet).1 = .error error) :
    (collector.tryPush layout packet).2 = collector := by
  rcases tryPush_cases collector packet small with ⟨_, unchanged⟩ | ⟨_, _, stored, -⟩
  · rw [unchanged]
  · rw [stored] at failed
    cases failed

theorem drainTensors_accounted {collector : MeteredCollector T R}
    (accounted : collector.Accounted layout maxPackets maxBytes) :
    (collector.drainTensors layout).1.Accounted layout maxPackets maxBytes := by
  have subtract : forall (tensors : List T) (currentBytes : Nat),
      (forall tensor, tensor ∈ tensors ->
        (layout.desc tensor).storageBytes = .ok (tensorBytes layout tensor)) ->
      tensors.foldl (fun currentBytes tensor =>
        match (layout.desc tensor).storageBytes with
        | .ok bytes => currentBytes - bytes
        | .error _ => currentBytes) currentBytes =
        currentBytes - (tensors.map (tensorBytes layout)).sum := by
    intro tensors
    induction tensors with
    | nil => exact fun _ _ => rfl
    | cons tensor tensors ih =>
        intro currentBytes measured
        rw [List.foldl_cons, measured tensor List.mem_cons_self,
          ih _ fun other member => measured other (List.mem_cons_of_mem _ member),
          List.map_cons, List.sum_cons, Nat.sub_sub]
  have bytes : (collector.drainTensors layout).1.currentBytes =
      heldBytes layout (collector.drainTensors layout).1 := by
    unfold drainTensors
    dsimp only
    rw [subtract _ _ accounted.measured, accounted.bytes]
    simp [heldBytes, resultBytes]
  have less : heldBytes layout (collector.drainTensors layout).1 <= heldBytes layout collector := by
    simp [heldBytes, drainTensors, resultBytes]
  refine ⟨accounted.packetBudget, accounted.byteBudget,
    fun _ impossible => (List.not_mem_nil impossible).elim, bytes, ?_, ?_⟩
  · rw [bytes]
    exact less.trans (accounted.bytes ▸ accounted.withinBytes)
  · refine le_trans ?_ accounted.withinPackets
    simp [totalPackets, drainTensors]

/-! ## Runs -/

inductive Operation (T R M : Type) where
  | push (packet : Packet T R M)
  | drain

/-- The collector, the packets it accepted and the tensors that were drained. -/
structure Use (T R M : Type) where
  collector : MeteredCollector T R
  accepted : List (Packet T R M)
  drained : List T

variable (layout)

def machine : Machine (Use T R M) (Operation T R M) where
  step use
    | .push packet =>
        match use.collector.tryPush layout packet with
        | (.ok (), collector) =>
            some { use with collector := collector, accepted := use.accepted ++ [packet] }
        | (.error _, collector) => some { use with collector := collector }
    | .drain =>
        let (collector, tensors) := use.collector.drainTensors layout
        some { use with collector := collector, drained := use.drained ++ tensors }

def start (effective : ResourcePolicy) : Use T R M where
  collector := new effective.maxBufferPackets effective.maxBufferBytes
  accepted := []
  drained := []

variable {layout}

/-- What was accepted is either drained or still there. -/
structure Kept (layout : PayloadLayout T) (effective : ResourcePolicy) (use : Use T R M) :
    Prop where
  accounted : use.collector.Accounted layout effective.maxBufferPackets effective.maxBufferBytes
  tensors : use.drained ++ use.collector.tensors = use.accepted.filterMap Packet.tensorRef

theorem step_kept {effective : ResourcePolicy} (small : effective.maxBufferBytes < usizeMax)
    {use next : Use T R M} {operation : Operation T R M} (kept : Kept layout effective use)
    (stepped : (machine layout).step use operation = some next) : Kept layout effective next := by
  cases operation with
  | push packet =>
      have fits : use.collector.maxBytes < usizeMax := kept.accounted.byteBudget ▸ small
      unfold machine at stepped
      dsimp only at stepped
      rcases tryPush_cases use.collector packet fits with
        ⟨error, refused⟩ | ⟨bytes, stored, pushed, size, room, within, isStored⟩
      · rw [refused] at stepped
        cases stepped
        exact kept
      · rw [pushed] at stepped
        cases stepped
        rcases store_held size isStored with
          ⟨packetBudget, byteBudget, current, held, packets, tensors, measured⟩
        dsimp only at packetBudget byteBudget current
        have accounted := kept.accounted
        refine ⟨⟨packetBudget.trans accounted.packetBudget, byteBudget.trans accounted.byteBudget,
          ?_, ?_, ?_, ?_⟩, ?_⟩
        · intro tensor member
          rw [tensors, List.mem_append, Option.mem_toList] at member
          rcases member with before | added
          · exact accounted.measured tensor before
          · exact measured tensor added
        · dsimp only
          rw [current, held, accounted.bytes]
          rfl
        · dsimp only
          rw [current, ← accounted.byteBudget]
          exact within
        · dsimp only
          rw [packets, ← accounted.packetBudget]
          exact room
        · dsimp only
          rw [tensors, ← List.append_assoc, kept.tensors, List.filterMap_append]
          cases isTensor : packet.tensorRef with
          | none => simp [isTensor]
          | some tensor => simp [isTensor]
  | drain =>
      cases stepped
      refine ⟨drainTensors_accounted kept.accounted, ?_⟩
      exact (List.append_nil _).trans kept.tensors

/-- A budget that was granted stays below what a machine word counts, so no
sum is cut off. -/
theorem granted_small {hard requested effective : ResourcePolicy}
    (granted : hard.effectiveFor requested = .ok effective) :
    effective.maxBufferBytes < usizeMax := by
  rcases ResourcePolicy.effectiveFor_iff.mp granted with ⟨rfl, -, valid⟩
  have within := (ResourcePolicy.validate_iff.mp valid).2.bufferBytes
  exact lt_of_le_of_lt within (by decide)

/-- In every run under a granted budget the bytes counted are those held, the
budget is kept, a push that fails changes nothing, and the tensors drained and
those still held are the accepted ones in order. -/
theorem sink_accounting (layout : PayloadLayout T) {hard requested effective : ResourcePolicy}
    (granted : hard.effectiveFor requested = .ok effective) {use : Use T R M}
    (reached : (machine layout).Reachable (start effective) use) :
    (forall tensor, tensor ∈ use.collector.tensors ->
      (layout.desc tensor).storageBytes = .ok (tensorBytes layout tensor)) ∧
    use.collector.currentBytes = heldBytes layout use.collector ∧
    use.collector.currentBytes <= effective.maxBufferBytes ∧
    use.collector.totalPackets <= effective.maxBufferPackets ∧
    (forall (packet : Packet T R M) (error : Error),
      (use.collector.tryPush layout packet).1 = .error error ->
        (use.collector.tryPush layout packet).2 = use.collector) ∧
    use.drained ++ use.collector.tensors = use.accepted.filterMap Packet.tensorRef := by
  have small := granted_small granted
  have kept : Kept layout effective use :=
    (machine layout).run_invariant (Kept layout effective)
      (fun _ _ _ before stepped => step_kept small before stepped) ⟨new_accounted, rfl⟩ reached
  have accounted := kept.accounted
  exact ⟨accounted.measured, accounted.bytes, accounted.withinBytes, accounted.withinPackets,
    fun _ _ => tryPush_failed (accounted.byteBudget ▸ small), kept.tensors⟩

/-- Four bytes for each tensor. -/
def wordLayout : PayloadLayout Unit where
  desc _ := .new ⟨[4]⟩ ⟨.uint, 8, 1⟩ .auto .cpu
  detection := 40
  classification := 16
  face := 64
  track := 48
  ocrText := 32

/-- Two packets and ten bytes. -/
def smallBudget : ResourcePolicy :=
  { ResourcePolicy.default with maxBufferPackets := 2, maxBufferBytes := 10 }

/-- A detection is too large, the end marker is refused, and a third tensor
finds room only after a drain. -/
def wordOperations : List (Operation Unit Unit Unit) :=
  [.push (Packet.tensor ()), .push ⟨PacketMeta.empty Unit, .detections [()]⟩, .push Packet.eos,
    .push (Packet.tensor ()), .push (Packet.tensor ()), .drain, .push (Packet.tensor ())]

theorem wordOperations_accounting :
    Exists fun use =>
      (machine wordLayout).run (start smallBudget) wordOperations = some use ∧
      (forall tensor, tensor ∈ use.collector.tensors ->
        (wordLayout.desc tensor).storageBytes = .ok (tensorBytes wordLayout tensor)) ∧
      use.collector.currentBytes = heldBytes wordLayout use.collector ∧
      use.collector.currentBytes <= smallBudget.maxBufferBytes ∧
      use.collector.totalPackets <= smallBudget.maxBufferPackets ∧
      (forall (packet : Packet Unit Unit Unit) (error : Error),
        (use.collector.tryPush wordLayout packet).1 = .error error ->
          (use.collector.tryPush wordLayout packet).2 = use.collector) ∧
      use.drained ++ use.collector.tensors = use.accepted.filterMap Packet.tensorRef := by
  have granted : ResourcePolicy.default.effectiveFor smallBudget = .ok smallBudget := by
    decide +kernel
  exact ⟨_, rfl, sink_accounting wordLayout granted ⟨wordOperations, rfl⟩⟩

/-! ## The engine's view of a collector

The engine's updates look at the tensors of a collector only. -/

theorem drainTensors_toSinkCollector (layout : PayloadLayout T)
    (collector : MeteredCollector T R) :
    (collector.drainTensors layout).1.toSinkCollector =
        collector.toSinkCollector.drainTensors.1 ∧
      (collector.drainTensors layout).2 = collector.toSinkCollector.drainTensors.2 :=
  ⟨rfl, rfl⟩

/-- A push that succeeds collects the tensor of the packet, if it has one. -/
theorem tryPush_toSinkCollector {collector : MeteredCollector T R} {packet : Packet T R M}
    (small : collector.maxBytes < usizeMax)
    (pushed : (collector.tryPush layout packet).1 = .ok ()) :
    (collector.tryPush layout packet).2.toSinkCollector =
      { collector.toSinkCollector with
        tensors := collector.tensors ++ packet.tensorRef.toList } := by
  rcases tryPush_cases collector packet small with
    ⟨error, refused⟩ | ⟨bytes, stored, succeeded, size, -, -, isStored⟩
  · rw [refused] at pushed
    cases pushed
  · rw [succeeded]
    rcases store_held size isStored with ⟨packetBudget, byteBudget, -, -, -, tensors, -⟩
    dsimp only at packetBudget byteBudget tensors ⊢
    rw [← packetBudget, ← byteBudget, ← tensors]

end MeteredCollector
end Graph
end DyunGu
