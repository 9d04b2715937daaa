import TunnelServer.Bytes

/-!
# Big-endian numbers

A number is written in a field of a given width with its most significant octet first.  Reading and
writing are inverse to each other on fields of one width, which is what every header law rests on.
-/

namespace TunnelServer.BigEndian

/-- The low `width` octets of a number, most significant first. -/
def encode : (width value : Nat) → Bytes
  | 0, _ => []
  | width + 1, value => encode width (value / 256) ++ [UInt8.ofNat value]

/-- The number that a field of octets stands for. -/
def decode (field : Bytes) : Nat :=
  field.foldl (fun value octet => value * 256 + octet.toNat) 0

/-- How many numbers a field of a width tells apart. -/
def capacity : (width : Nat) → Nat
  | 0 => 1
  | width + 1 => 256 * capacity width

theorem capacity_pos (width : Nat) : 0 < capacity width := by
  induction width with
  | zero => decide
  | succ width hypothesis => exact Nat.mul_pos (by decide) hypothesis

@[simp]
theorem length_encode (width value : Nat) : (encode width value).length = width := by
  induction width generalizing value with
  | zero => rfl
  | succ width hypothesis => simp [encode, hypothesis]

theorem decode_concat (field : Bytes) (octet : UInt8) :
    decode (field ++ [octet]) = decode field * 256 + octet.toNat := by
  simp [decode, List.foldl_append]

/-- What was written in a field is read back, up to the field's capacity. -/
theorem decode_encode (width value : Nat) :
    decode (encode width value) = value % capacity width := by
  induction width generalizing value with
  | zero => simp [encode, decode, capacity, Nat.mod_one]
  | succ width hypothesis =>
    have digit : (UInt8.ofNat value).toNat = value % 256 := UInt8.toNat_ofNat'
    rw [encode, decode_concat, hypothesis, digit, capacity, Nat.mod_mul, Nat.add_comm,
      Nat.mul_comm 256]

/-- A field is determined by the number it stands for. -/
theorem encode_decode (field : Bytes) : encode field.length (decode field) = field := by
  have concat : ∀ reversed : Bytes,
      encode reversed.reverse.length (decode reversed.reverse) = reversed.reverse := by
    intro reversed
    induction reversed with
    | nil => rfl
    | cons octet rest hypothesis =>
      have bound := octet.toNat_lt
      rw [List.reverse_cons, List.length_append, List.length_singleton, encode, decode_concat]
      have quotient : (decode rest.reverse * 256 + octet.toNat) / 256 = decode rest.reverse := by
        omega
      have digit : UInt8.ofNat (decode rest.reverse * 256 + octet.toNat) = octet := by
        apply UInt8.toNat_inj.mp
        rw [UInt8.toNat_ofNat']
        omega
      rw [quotient, digit, hypothesis]
  simpa using concat field.reverse

/-- A field stands for a number below its capacity. -/
theorem decode_lt (field : Bytes) : decode field < capacity field.length := by
  have bound := congrArg decode (encode_decode field)
  rw [decode_encode] at bound
  rw [← bound]
  exact Nat.mod_lt _ (capacity_pos _)

end TunnelServer.BigEndian
