import Mathlib.Data.List.Basic

/-!
# Length-prefixed records

A record goes out as its length and its payload. Of a stream of records a receiver can cut off the
payloads, whatever part of the stream it has got: it finds the whole records of that part, and what
is left over begins the next one.
-/

namespace Microcar.Core

universe u

/-- How a length is written. -/
structure LengthCodec (β : Type u) where
  width : Nat
  /-- Lengths below this bound can be written. -/
  bound : Nat
  encode : Nat → List β
  decode : List β → Nat
  width_pos : 0 < width
  length_encode : ∀ n, (encode n).length = width
  decode_encode : ∀ n < bound, decode (encode n) = n

namespace LengthCodec

variable {β : Type u} (codec : LengthCodec β)

/-- A record. -/
def frame (payload : List β) : List β := codec.encode payload.length ++ payload

/-- Cut the first record off a stream, if it is there as a whole. -/
def readFrame (stream : List β) : Option (List β × List β) :=
  let size := codec.decode (stream.take codec.width)
  if codec.width + size ≤ stream.length then
    some ((stream.drop codec.width).take size, stream.drop (codec.width + size))
  else none

/-- A frame is as long as its header and its payload. -/
theorem length_frame (payload : List β) :
    (codec.frame payload).length = codec.width + payload.length := by
  rw [frame, List.length_append, codec.length_encode]

/-- A frame at the head of a stream is read back. -/
theorem readFrame_append {payload : List β} (h : payload.length < codec.bound) (rest : List β) :
    codec.readFrame (codec.frame payload ++ rest) = some (payload, rest) := by
  have hwidth : codec.width = (codec.encode payload.length).length := (codec.length_encode _).symm
  have hsize : codec.decode ((codec.frame payload ++ rest).take codec.width) = payload.length := by
    rw [frame, List.append_assoc, List.take_left' hwidth.symm, codec.decode_encode _ h]
  rw [readFrame, hsize]
  rw [if_pos (by rw [List.length_append, length_frame]; omega)]
  have hpayload : ((codec.frame payload ++ rest).drop codec.width).take payload.length =
      payload := by
    rw [frame, List.append_assoc, List.drop_left' hwidth.symm, List.take_left]
  rw [hpayload, List.drop_left' (codec.length_frame payload)]

/-- Of a part of a record nothing can be cut off. -/
theorem readFrame_part {payload part : List β} (h : payload.length < codec.bound)
    (hpart : part <+: codec.frame payload) (hshort : part.length < (codec.frame payload).length) :
    codec.readFrame part = none := by
  rw [readFrame]
  refine if_neg fun hle => ?_
  have hwidth : codec.width ≤ part.length := by omega
  have htake : part.take codec.width = codec.encode payload.length := by
    obtain ⟨rest, hrest⟩ := hpart
    have hprefix : (part ++ rest).take codec.width = codec.encode payload.length := by
      rw [hrest, frame, List.take_left' (codec.length_encode _)]
    rwa [List.take_append_of_le_length hwidth] at hprefix
  rw [htake, codec.decode_encode _ h] at hle
  rw [length_frame] at hshort
  omega

/-- What is left of a stream is shorter. -/
theorem length_readFrame {stream payload rest : List β}
    (h : codec.readFrame stream = some (payload, rest)) : rest.length < stream.length := by
  rw [readFrame] at h
  split at h
  next hle =>
    obtain ⟨-, rfl⟩ := Prod.mk.inj (Option.some.inj h)
    have := codec.width_pos
    rw [List.length_drop]
    omega
  next => exact absurd h (by simp)

/-- The whole records of a stream, and what is left. -/
def drain (stream : List β) : List (List β) × List β :=
  match h : codec.readFrame stream with
  | none => ([], stream)
  | some (payload, rest) =>
    have := codec.length_readFrame h
    let (payloads, left) := drain rest
    (payload :: payloads, left)
termination_by stream.length

/-- Without a whole frame nothing is drained. -/
theorem drain_of_none {stream : List β} (h : codec.readFrame stream = none) :
    codec.drain stream = ([], stream) := by
  rw [drain]
  split
  next => rfl
  next hsome => exact absurd (h.symm.trans hsome) (by simp)

/-- A whole frame is drained, and so is what follows. -/
theorem drain_of_some {stream payload rest : List β}
    (h : codec.readFrame stream = some (payload, rest)) :
    codec.drain stream = (payload :: (codec.drain rest).1, (codec.drain rest).2) := by
  rw [drain]
  split
  next hnone => exact absurd (h.symm.trans hnone) (by simp)
  next payload' rest' hsome =>
    obtain ⟨rfl, rfl⟩ := Prod.mk.inj (Option.some.inj (h.symm.trans hsome))
    rfl

/-- The stream of some records. -/
def stream (payloads : List (List β)) : List β := payloads.flatMap codec.frame

@[simp] theorem stream_nil : codec.stream [] = [] := rfl

@[simp] theorem stream_cons (payload : List β) (payloads : List (List β)) :
    codec.stream (payload :: payloads) = codec.frame payload ++ codec.stream payloads :=
  List.flatMap_cons

/-- Records of one size. -/
theorem length_stream {payloads : List (List β)} {size : Nat}
    (h : ∀ payload ∈ payloads, (codec.frame payload).length = size) :
    (codec.stream payloads).length = size * payloads.length := by
  induction payloads with
  | nil => simp
  | cons payload payloads ih =>
    rw [stream_cons, List.length_append, h payload List.mem_cons_self,
      ih fun p hp => h p (List.mem_cons_of_mem _ hp), List.length_cons, Nat.mul_succ, Nat.add_comm]

/-- From any first part of a stream the receiver has the records that have come in whole. -/
theorem exists_drain_take {payloads : List (List β)}
    (h : ∀ payload ∈ payloads, payload.length < codec.bound) (got : Nat) :
    ∃ whole left, codec.drain ((codec.stream payloads).take got) = (payloads.take whole, left) ∧
      codec.stream (payloads.take whole) ++ left = (codec.stream payloads).take got ∧
      ∀ payload ∈ (payloads.drop whole).head?, left.length < (codec.frame payload).length := by
  induction payloads generalizing got with
  | nil =>
    have hnil : codec.readFrame [] = none := by
      rw [readFrame]
      exact if_neg (by have := codec.width_pos; simp; omega)
    refine ⟨0, [], ?_, by simp, by simp⟩
    rw [stream_nil, List.take_nil, drain_of_none _ hnil]
    rfl
  | cons payload payloads ih =>
    have hpayload := h payload List.mem_cons_self
    have hrest : ∀ p ∈ payloads, p.length < codec.bound :=
      fun p hp => h p (List.mem_cons_of_mem _ hp)
    rw [stream_cons]
    by_cases hwhole : (codec.frame payload).length ≤ got
    · obtain ⟨whole, left, hdrain, hsplit, hleft⟩ :=
        ih hrest (got - (codec.frame payload).length)
      have hgot : (codec.frame payload ++ codec.stream payloads).take got =
          codec.frame payload ++
            (codec.stream payloads).take (got - (codec.frame payload).length) := by
        rw [List.take_append, List.take_of_length_le hwhole]
      refine ⟨whole + 1, left, ?_, ?_, hleft⟩
      · rw [hgot, drain_of_some _ (codec.readFrame_append hpayload _), hdrain, List.take_succ_cons]
      · rw [hgot, List.take_succ_cons, stream_cons, List.append_assoc, hsplit]
    · have hlt : got < (codec.frame payload).length := Nat.not_le.mp hwhole
      have hgot : (codec.frame payload ++ codec.stream payloads).take got =
          (codec.frame payload).take got := List.take_append_of_le_length (Nat.le_of_lt hlt)
      have hshort : ((codec.frame payload).take got).length < (codec.frame payload).length := by
        rw [List.length_take]
        omega
      have hpart := codec.readFrame_part hpayload (List.take_prefix got _) hshort
      refine ⟨0, (codec.frame payload).take got, ?_, ?_, ?_⟩
      · rw [hgot, drain_of_none _ hpart, List.take_zero]
      · rw [hgot, List.take_zero, stream_nil, List.nil_append]
      · intro p hp
        obtain rfl := Option.some.inj hp
        exact hshort

/-- Of records of one size the receiver has as many as fit into the part it has got. -/
theorem drain_take {payloads : List (List β)} {size : Nat}
    (hbound : ∀ payload ∈ payloads, payload.length < codec.bound)
    (hsize : ∀ payload ∈ payloads, (codec.frame payload).length = size) (hpos : 0 < size)
    (got : Nat) :
    (codec.drain ((codec.stream payloads).take got)).1 = payloads.take (got / size) := by
  obtain ⟨whole, left, hdrain, hsplit, hleft⟩ := codec.exists_drain_take hbound got
  rw [hdrain]
  have hlength := congrArg List.length hsplit
  rw [List.length_append, List.length_take, codec.length_stream hsize,
    codec.length_stream fun p hp => hsize p (List.mem_of_mem_take hp), List.length_take] at hlength
  by_cases hwhole : whole < payloads.length
  · have hnext : left.length < size := by
      have hhead : (payloads.drop whole).head? = some payloads[whole] := by
        rw [List.head?_drop, List.getElem?_eq_getElem hwhole]
      have hlt := hleft _ hhead
      rwa [hsize _ (List.getElem_mem hwhole)] at hlt
    have hmore : size * whole + size ≤ size * payloads.length := by
      rw [← Nat.mul_succ]
      exact Nat.mul_le_mul_left size hwhole
    have hgot : got = size * whole + left.length := by
      rw [Nat.min_eq_left (Nat.le_of_lt hwhole)] at hlength
      omega
    rw [hgot, Nat.mul_add_div hpos, Nat.div_eq_of_lt hnext, Nat.add_zero]
  · have hall : payloads.length ≤ whole := Nat.not_lt.mp hwhole
    have hgot : payloads.length ≤ got / size := by
      rw [Nat.le_div_iff_mul_le hpos, Nat.mul_comm]
      rw [Nat.min_eq_right hall] at hlength
      omega
    rw [List.take_of_length_le hall, List.take_of_length_le hgot]

end LengthCodec

end Microcar.Core
