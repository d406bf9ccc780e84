import Xice.Stun.Authentication

/-!
# Unknown attributes

`stun_agent_find_unknowns` walks over the attributes with a length of sixteen bits, whereas
`stun_message_validate_buffer_length` walked over them with the full length. The two agree on
messages of at most 65535 bytes; in a longer one no unknown attribute is seen.
-/

namespace Xice.Stun

open Xice.Lib Reading

variable {platform : Platform} {agent : StunAgent} {msg : StunMessage}

/-! ## The loop -/

/-- A type that has to be understood and is not known. The list of known ones ends at its first
zero. -/
def StunAgent.Unknown (agent : StunAgent) (type : UInt16) : Bool :=
  type < 0x8000 && type ∉ agent.knownAttributes.takeWhile (· ≠ 0)

variable {buffer : Mem} {stop start : Nat}

/-- The loop tests that. -/
theorem unknown_eq (agent : StunAgent) (type : UInt16) :
    (!stunOptional type && agent.isUnknown type) = agent.Unknown type := by
  have optional : (type >>> 15 = 1) ↔ ¬type < 0x8000 := by
    have bound := type.toNat_lt
    rw [← UInt16.toNat_inj, UInt16.lt_iff_toNat_lt, UInt16.toNat_shiftRight]
    change type.toNat >>> 15 = 1 ↔ ¬type.toNat < 32768
    rw [Nat.shiftRight_eq_div_pow]
    omega
  unfold stunOptional StunAgent.isUnknown StunAgent.Unknown
  rw [decide_eq_decide.mpr optional, decide_not, Bool.not_not]

/-- One step of the loop, with the values of its reads. -/
theorem findUnknownsLoop_step {room : Nat} (inside : start < stop) (more : 0 < room) :
    agent.findUnknownsLoop buffer stop room start =
      (look (start + 2) 2 () >>= fun _ => look start 2 () >>= fun _ =>
        if agent.Unknown (ntohs buffer start) then
          agent.findUnknownsLoop buffer stop (room - 1)
            (attrNext buffer agent.usageFlags.noAlignedAttributes start) >>= fun rest =>
              pure (ntohs buffer start :: rest)
        else agent.findUnknownsLoop buffer stop room
          (attrNext buffer agent.usageFlags.noAlignedAttributes start)) := by
  rw [StunAgent.findUnknownsLoop, if_pos ⟨inside, more⟩, ← unknown_eq]
  rfl

/-- The loop stops at the end and when its list is full. -/
theorem findUnknownsLoop_stop {room : Nat} (outside : ¬(start < stop ∧ 0 < room)) :
    agent.findUnknownsLoop buffer stop room start = pure [] := by
  rw [StunAgent.findUnknownsLoop, if_neg outside]

/-- Over a chain, the loop lists the first unknown types. -/
theorem value_findUnknownsLoop {offsets : List Nat}
    (chain : Chain (attrNext buffer agent.usageFlags.noAlignedAttributes) start stop offsets)
    (room : Nat) :
    (agent.findUnknownsLoop buffer stop room start).value =
      ((offsets.map (ntohs buffer)).filter agent.Unknown).take room := by
  induction chain generalizing room with
  | nil stop => rw [findUnknownsLoop_stop (by omega)]; simp
  | @cons start stop offsets rest ih =>
    have grows := attrNext_grows buffer agent.usageFlags.noAlignedAttributes
    have inside : start < stop := Nat.lt_of_lt_of_le (grows start) (rest.le grows)
    cases room with
    | zero => rw [findUnknownsLoop_stop (by omega), List.take_zero]; rfl
    | succ room =>
      rw [findUnknownsLoop_step inside (Nat.succ_pos room), List.map_cons, List.filter_cons]
      simp only [value_bind, value_ite, value_pure, ih]
      split <;> rfl

/-- Over a chain, it looks at heads of attributes only. -/
theorem below_findUnknownsLoop {offsets : List Nat}
    (chain : Chain (attrNext buffer agent.usageFlags.noAlignedAttributes) start stop offsets)
    (room : Nat) : (agent.findUnknownsLoop buffer stop room start).Below stop := by
  induction chain generalizing room with
  | nil stop =>
    rw [findUnknownsLoop_stop (by omega)]
    exact below_pure _ _
  | @cons start stop offsets rest ih =>
    have grows := attrNext_grows buffer agent.usageFlags.noAlignedAttributes
    have behind := rest.le grows
    have head : start + 4 ≤ attrNext buffer agent.usageFlags.noAlignedAttributes start :=
      Nat.le_add_right _ _
    cases room with
    | zero =>
      rw [findUnknownsLoop_stop (by omega)]
      exact below_pure _ _
    | succ room =>
      rw [findUnknownsLoop_step (by omega) (Nat.succ_pos room), below_bind,
        below_bind, below_look, below_look]
      refine ⟨.inr (by omega), .inr (by omega), ?_⟩
      refine below_ite.mpr ⟨?_, ?_⟩
      · intro _
        exact below_bind.mpr ⟨ih _, below_pure _ _⟩
      · intro _
        exact ih _

/-! ## Messages -/

/-- The types of the unknown attributes, in order. -/
def StunAgent.unknownTypes (agent : StunAgent) {unaligned : Bool}
    (attrs : List (Attribute unaligned)) : List UInt16 :=
  (attrs.map Attribute.type).filter agent.Unknown

/-- The first unknown types of a message of at most 65535 bytes, and nothing of a longer one. -/
theorem value_findUnknowns {attrs : List (Attribute agent.usageFlags.noAlignedAttributes)}
    (bytes : slice msg.buffer 20 msg.recorded = attrs.flatMap Attribute.bytes) (room : Nat) :
    (agent.findUnknowns msg room).value =
      if msg.recorded ≤ 65535 then (agent.unknownTypes attrs).take room else [] := by
  have length := toNat_length msg
  have bound := (ntohs msg.buffer 2).toNat_lt
  rw [StunAgent.findUnknowns, value_bind]
  split
  · obtain ⟨offsets, laid, rfl⟩ := chain_of_slice (show 20 ≤ msg.recorded from Nat.le_add_left _ _)
      bytes
    rw [length, Nat.mod_eq_of_lt (by omega), value_findUnknownsLoop laid, StunAgent.unknownTypes,
      List.map_map]
    rfl
  · have short : msg.length.value.toNat ≤ 20 := by
      rw [length]
      have recorded : msg.recorded = (ntohs msg.buffer 2).toNat + 20 := rfl
      omega
    rw [findUnknownsLoop_stop (by omega)]
    rfl

/-- Without the cookie, an odd number of types is filled up with the first. -/
def evenTypes (types : List UInt16) (cookie : Bool) : List UInt16 :=
  if !cookie && types.length % 2 = 1 then types ++ types.take 1 else types

/-- The array has room for it. -/
theorem length_evenTypes {types : List UInt16} (room : types.length ≤ 256) (cookie : Bool) :
    (evenTypes types cookie).length ≤ 256 := by
  have one : (types.take 1).length ≤ 1 := List.length_take_le _ _
  unfold evenTypes
  split
  · rename_i odd
    simp only [Bool.and_eq_true, decide_eq_true_eq] at odd
    rw [List.length_append]
    omega
  · exact room

/-- What the error lists. -/
theorem buildUnknownAttributesError_eq (platform : Platform) {out : Mem} {outLen : UInt64}
    {error : StunMessage}
    (made : agent.initError out outLen msg .unknownAttribute = some error) :
    agent.buildUnknownAttributesError platform out outLen msg =
      let ids := evenTypes (agent.findUnknowns msg 256).value msg.hasCookie.value
      (ids, match error.appendBytes attrUnknownAttributes (Mem.ofList (ids.flatMap htons))
          (UInt64.ofNat (ids.length * 2)) with
        | none => some none
        | some done => (agent.finishMessage platform done.msg msg.key).map some) := by
  unfold StunAgent.buildUnknownAttributesError
  generalize (agent.findUnknowns msg 256).value = types
  generalize msg.hasCookie.value = cookie
  have even : (if (!cookie && decide (types.length % 2 = 1)) = true then types ++ types.take 1
      else types) = evenTypes types cookie := rfl
  simp only [made, even]
  generalize evenTypes types cookie = ids
  cases error.appendBytes attrUnknownAttributes (Mem.ofList (ids.flatMap htons))
    (UInt64.ofNat (ids.length * 2)) with
  | none | some => rfl

/-- Success means that no unknown attribute was found. -/
theorem acceptedStatus_eq_success {c : StunClass} {unknown : List UInt16} :
    acceptedStatus c unknown = .success ↔ unknown = [] := by
  unfold acceptedStatus
  cases unknown with
  | nil => simp
  | cons first rest =>
    simp only [List.length_cons, Nat.succ_pos, gt_iff_lt, if_true]
    split <;> simp

/-- Success means that there is none, and the error for a request lists the first 256 unknown
attributes, filled up to an even number without the cookie. -/
structure StunAgent.Reports (platform : Platform) (agent : StunAgent) (result : Validation)
    (unknown : List UInt16) : Prop where
  success : result.status = .success → unknown = []
  error : result.msg.getClass.value = .request → ∀ out outLen error,
    agent.initError out outLen result.msg .unknownAttribute = some error →
    let ids := evenTypes (unknown.take 256) result.msg.hasCookie.value
    ids.length ≤ 256 ∧
    agent.buildUnknownAttributesError platform out outLen result.msg =
      (ids, match error.appendBytes attrUnknownAttributes (Mem.ofList (ids.flatMap htons))
          (UInt64.ofNat (ids.length * 2)) with
        | none => some none
        | some done => (agent.finishMessage platform done.msg result.msg.key).map some)

variable {result : Validation} {buffer : Mem} {bufferLen : UInt64} {validater : Option Validater}

/-- Transactions do not matter. -/
theorem findUnknowns_over (agent : StunAgent) (slot : Option (Fin 200)) (msg : StunMessage)
    (room : Nat) {attrs : List (Attribute agent.usageFlags.noAlignedAttributes)}
    (bytes : slice msg.buffer 20 msg.recorded = attrs.flatMap Attribute.bytes) :
    ((agent.over slot).findUnknowns msg room).value =
      if msg.recorded ≤ 65535 then (agent.unknownTypes attrs).take room else [] := by
  cases slot with
  | none => exact value_findUnknowns bytes room
  | some slot => exact @value_findUnknowns (agent.release slot) msg attrs bytes room

/-- Unknown attributes of an accepted message are reported, unless there are some and it is longer
than 65535 bytes. -/
theorem unknowns_of_validate_iff {attrs : List (Attribute agent.usageFlags.noAlignedAttributes)}
    (done : (agent.validate platform msg buffer bufferLen validater).value = some result)
    (accepted : ¬result.status.IsRefusal)
    (bytes : slice buffer 20 ((ntohs buffer 2).toNat + 20) = attrs.flatMap Attribute.bytes) :
    agent.Reports platform result (agent.unknownTypes attrs) ↔
      (ntohs buffer 2).toNat + 20 ≤ 65535 ∨ agent.unknownTypes attrs = [] := by
  obtain ⟨slot, key, last, -, -, passes, rfl⟩ := accepted_of_validate done accepted
  have same : last.buffer = buffer := (checkIntegrity_kept passes.checked).1
  subst same
  have found (room : Nat) := findUnknowns_over agent slot last room bytes
  have listed (room : Nat) : (agent.findUnknowns last room).value = _ :=
    value_findUnknowns bytes room
  constructor
  · intro reports
    by_cases short : last.recorded ≤ 65535
    · exact .inl short
    · right
      apply reports.success
      simp only [acceptedStatus, found, if_neg short]
      rfl
  · intro condition
    have first (room : Nat) : (agent.findUnknowns last room).value =
        (agent.unknownTypes attrs).take room := by
      rw [listed]
      split
      · rfl
      · rename_i long
        rcases condition with short | none
        · exact absurd short long
        · rw [none, List.take_nil]
    constructor
    · intro success
      rcases condition with short | none
      · change last.recorded ≤ 65535 at short
        have seen := acceptedStatus_eq_success.mp success
        rw [found, if_pos short] at seen
        simpa using seen
      · exact none
    · intro _ out outLen error made
      refine ⟨length_evenTypes (List.length_take_le _ _) _, ?_⟩
      rw [buildUnknownAttributesError_eq platform made, first]

/-- A request with one attribute, whose type is 1. -/
def shortRequest : Mem := Mem.ofList ([0, 1, 0, 4] ++ List.replicate 16 0 ++ [0, 1, 0, 0])

/-- An agent that knows no attribute reports it. -/
theorem unknowns_of_validate_iff_one :
    ∃ result, ∃ attrs : List (Attribute plainAgent.usageFlags.noAlignedAttributes),
      (plainAgent.validate zeroPlatform (blankMessage 0) shortRequest 24 none).value = some result ∧
      result.status = .unknownRequestAttribute ∧ plainAgent.unknownTypes attrs = [1] ∧
      plainAgent.Reports zeroPlatform result (plainAgent.unknownTypes attrs) := by
  have status : (plainAgent.validate zeroPlatform (blankMessage 0) shortRequest 24 none).value.map
      Validation.status = some .unknownRequestAttribute := by decide +kernel
  obtain ⟨result, done, unknown⟩ := Option.map_eq_some_iff.mp status
  have chain : Laid shortRequest false 24 [20] := by
    apply Chain.cons
    rw [show attrNext shortRequest false 20 = 24 by decide +kernel]
    exact Chain.nil 24
  have accepted : ¬result.status.IsRefusal := by
    rw [unknown]
    decide
  exact ⟨result, _, done, unknown, by decide +kernel,
    (unknowns_of_validate_iff done accepted (slice_chain chain)).mpr (.inl (by decide +kernel))⟩

/-- A request of 65536 bytes with one attribute, of type 1. -/
def longRequest : Mem :=
  Mem.ofList ([0, 1, 0xff, 0xec] ++ List.replicate 16 0 ++ [0, 1, 0xff, 0xe8])

/-- An agent that knows no attribute returns success for it. -/
theorem long_request_succeeds :
    (plainAgent.validate zeroPlatform (blankMessage 0) longRequest 65536 none).value.map
      Validation.status = some .success ∧
    ∃ attrs : List (Attribute plainAgent.usageFlags.noAlignedAttributes),
      slice longRequest 20 65536 = attrs.flatMap Attribute.bytes ∧
      plainAgent.unknownTypes attrs = [1] := by
  have chain : Laid longRequest false 65536 [20] := by
    apply Chain.cons
    rw [show attrNext longRequest false 20 = 65536 by decide +kernel]
    exact Chain.nil 65536
  exact ⟨by decide +kernel, _, slice_chain chain, by decide +kernel⟩

end Xice.Stun
