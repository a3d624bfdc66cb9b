/-
# The frames on the wire

The MAC of the chip completes a frame that it sends: it inserts its own address, pads, and
appends the checksum, as its registers say.  On the other side the receive filters decide which
frames are stored.  The checksum is a parameter: both chips compute the same function.
-/
import Enc624j600.Receive.Registers
import Enc624j600.Transmit.Run

namespace Enc624j600

open Cyclic Interaction

/-- A checksum of frames. -/
abbrev Checksum : Type := List Byte → Vector Byte 4

/-- One byte of the CRC-32, least significant bit first. -/
def crc32Step (crc : BitVec 32) (byte : Byte) : BitVec 32 :=
  (fun x : BitVec 32 => if x.getLsbD 0 then (x >>> 1) ^^^ 0xEDB88320#32 else x >>> 1)^[8]
    (crc ^^^ byte.setWidth 32)

/-- The checksum of Ethernet frames, least significant byte first. -/
def crc32 : Checksum := fun bytes =>
  let crc := ~~~bytes.foldl crc32Step 0xFFFFFFFF#32
  #v[crc.setWidth 8, (crc >>> 8).setWidth 8, (crc >>> 16).setWidth 8, (crc >>> 24).setWidth 8]

example : crc32 [0x31#8, 0x32#8, 0x33#8, 0x34#8, 0x35#8, 0x36#8, 0x37#8, 0x38#8, 0x39#8] =
    #v[0x26#8, 0x39#8, 0xF4#8, 0xCB#8] := by decide +kernel

namespace Chip

variable (fcs : Checksum) (c : Chip)

/-! ### Sending -/

/-- The six bytes of the MAC address. -/
def macAddress : List Byte :=
  [lsb (c.sfr MAADR1), msb (c.sfr MAADR1), lsb (c.sfr MAADR2), msb (c.sfr MAADR2),
    lsb (c.sfr MAADR3), msb (c.sfr MAADR3)]

/-- The bytes that `ETXST` and `ETXLEN` select. -/
def selected : List Byte :=
  readFrom (c.windowNext .EGPDATA) c.sram (c.sfr ETXST).toNat (c.sfr ETXLEN).toNat

/-- With the source address, which `TXMAC` has the chip insert. -/
def addressed : List Byte :=
  if c.sfr ECON2 &&& TXMAC ≠ 0#16 then
    c.selected.take 6 ++ c.macAddress ++ c.selected.drop 6
  else c.selected

/-- With the zeros up to 60 bytes, for `PADCFG = 001`. -/
def padded : List Byte :=
  if c.sfr MACON2 &&& (PADCFG0 ||| PADCFG1 ||| PADCFG2) = PADCFG0 then
    c.addressed ++ List.replicate (60 - c.addressed.length) 0#8
  else c.addressed

/-- With the checksum, for `TXCRCEN`. -/
def outgoing : List Byte :=
  if c.sfr MACON2 &&& TXCRCEN ≠ 0#16 then c.padded ++ (fcs c.padded).toList else c.padded

/-- The frame is longer than `MAMXFL`, and huge frames are not enabled. -/
def TooLong : Prop :=
  c.sfr MACON2 &&& HFRMEN = 0#16 ∧ (c.sfr MAMXFL).toNat < (c.outgoing fcs).length

instance : Decidable (c.TooLong fcs) := inferInstanceAs (Decidable (_ ∧ _))

/-- How a transmission ends on a wire that loses nothing: the chip aborts a frame that is too
long; any other frame leaves, and the chip reports no error and the number of its bytes. -/
structure Carries (o : TxOutcome) : Prop where
  wire : o.wire = if c.TooLong fcs then none else some (c.outgoing fcs)
  etxwire : ¬ c.TooLong fcs → o.etxwire = BitVec.ofNat 16 (c.outgoing fcs).length
  etxstat : ¬ c.TooLong fcs → o.etxstat &&& (LATECOL ||| MAXCOL ||| EXDEFER) = 0#16

lemma exists_carries : ∃ o, c.Carries fcs o ∧ o.etxstat = 0#16 ∧ o.fcop = 0#16 :=
  ⟨⟨0#16, BitVec.ofNat 16 (c.outgoing fcs).length, 0#16,
    if c.TooLong fcs then none else some (c.outgoing fcs)⟩,
    ⟨rfl, fun _ => rfl, fun _ => BitVec.zero_and⟩, rfl, rfl⟩

/-! ### Receiving -/

/-- The chip stores the frame.  The filters that are not named here are off after the
initialisation. -/
structure Accepts (frame : List Byte) : Prop where
  crc : c.sfr ERXFCON &&& CRCEN ≠ 0#16 →
    frame.drop (frame.length - 4) = (fcs (frame.take (frame.length - 4))).toList
  runt : c.sfr ERXFCON &&& RUNTEN ≠ 0#16 → 64 ≤ frame.length
  limit : c.sfr MACON2 &&& HFRMEN = 0#16 → frame.length ≤ (c.sfr MAMXFL).toNat
  destination : (c.sfr ERXFCON &&& UCEN ≠ 0#16 ∧ frame.take 6 = c.macAddress) ∨
    (c.sfr ERXFCON &&& BCEN ≠ 0#16 ∧ frame.take 6 = List.replicate 6 0xFF#8)

end Chip

instance (fcs : Checksum) (c : Chip) (frame : List Byte) : Decidable (c.Accepts fcs frame) :=
  decidable_of_iff (_ ∧ _ ∧ _ ∧ _)
    ⟨fun h => ⟨h.1, h.2.1, h.2.2.1, h.2.2.2⟩,
      fun h => ⟨h.crc, h.runt, h.limit, h.destination⟩⟩

/-- A transmission ends as on a wire that loses nothing. -/
def carrying (fcs : Checksum) : Surroundings := fun c e =>
  match e with
  | .transmitted o => c.Carries fcs o
  | _ => True

/-! ### The MAC as the initialisation leaves it -/

/-- The registers of the MAC, for the address `A`. -/
structure MacRegisters (A : ℕ → Byte) (sfr : Byte → Word) : Prop where
  maadr1 : sfr MAADR1 = assemble (A 0) (A 1)
  maadr2 : sfr MAADR2 = assemble (A 2) (A 3)
  maadr3 : sfr MAADR3 = assemble (A 4) (A 5)
  mamxfl : sfr MAMXFL = 0x05EE#16
  txmac : sfr ECON2 &&& TXMAC ≠ 0#16
  padcfg : sfr MACON2 &&& (PADCFG0 ||| PADCFG1 ||| PADCFG2) = PADCFG0
  txcrcen : sfr MACON2 &&& TXCRCEN ≠ 0#16
  ucen : sfr ERXFCON &&& UCEN ≠ 0#16
  bcen : sfr ERXFCON &&& BCEN ≠ 0#16

/-- The registers that the MAC reads. -/
def IsMacRegister (a : Byte) : Prop :=
  a ∈ [MAADR1, MAADR2, MAADR3, MAMXFL, ECON2, MACON2, ERXFCON]

instance (a : Byte) : Decidable (IsMacRegister a) := inferInstanceAs (Decidable (_ ∈ _))

namespace MacRegisters

variable {A : ℕ → Byte} {sfr sfr' : Byte → Word} {c : Chip} {fcs : Checksum} {bs : List Byte}

lemma congr (h : MacRegisters A sfr) (hs : ∀ a, IsMacRegister a → sfr' a = sfr a) :
    MacRegisters A sfr' := by
  refine ⟨?_, ?_, ?_, ?_, ?_, ?_, ?_, ?_, ?_⟩
  · exact (hs _ (by decide)).trans h.maadr1
  · exact (hs _ (by decide)).trans h.maadr2
  · exact (hs _ (by decide)).trans h.maadr3
  · exact (hs _ (by decide)).trans h.mamxfl
  · exact hs ECON2 (by decide) ▸ h.txmac
  · exact hs MACON2 (by decide) ▸ h.padcfg
  · exact hs MACON2 (by decide) ▸ h.txcrcen
  · exact hs ERXFCON (by decide) ▸ h.ucen
  · exact hs ERXFCON (by decide) ▸ h.bcen

lemma macAddress (h : MacRegisters A c.sfr) : c.macAddress = bytesOf A 6 := by
  simp only [Chip.macAddress, h.maadr1, h.maadr2, h.maadr3, lsb_assemble, msb_assemble]
  rfl

lemma padded (h : MacRegisters A c.sfr) (hb : Buffered bs c) (hst : c.sfr ERXST = 0x2000#16) :
    c.padded = (bs.take 6 ++ bytesOf A 6 ++ bs.drop 6) ++
      List.replicate (60 - (bs.take 6 ++ bytesOf A 6 ++ bs.drop 6).length) 0#8 := by
  have hsel : c.selected = bs := by
    rw [Chip.selected, windowNext_egpdata hst, hb.etxlen, hb.bytes]
  rw [Chip.padded, if_pos h.padcfg, Chip.addressed, if_pos h.txmac, hsel, h.macAddress]

lemma outgoing (h : MacRegisters A c.sfr) : c.outgoing fcs = c.padded ++ (fcs c.padded).toList :=
  if_pos h.txcrcen

end MacRegisters

/-! ### The frame of a request -/

namespace Request

variable (fcs : Checksum) (A : ℕ → Byte) (r : Request)

/-- The destination address, the type field and the data of a call with valid arguments. -/
def destination : List Byte := bytesOf (r.destinationMac.getD fun _ => 0#8) 6

/-- The length or type of the frame. -/
def typeField : List Byte := bytesOf (r.lengthType.getD fun _ => 0#8) 2

/-- The data of the frame, before the padding. -/
def payload : List Byte := bytesOf (r.data.getD fun _ => 0#8) r.length.toNat

/-- The frame without its checksum, for a sender with the address `A`. -/
def body : List Byte :=
  r.destination ++ bytesOf A 6 ++ r.typeField ++
    (r.payload ++ List.replicate (46 - r.length.toNat) 0#8)

/-- The frame on the wire. -/
def onWire : List Byte := r.body A ++ (fcs (r.body A)).toList

/-- The frame as the receiver takes it apart. -/
def frame : Frame where
  destination := r.destination
  source := bytesOf A 6
  lengthType := r.typeField
  payload := r.payload ++ List.replicate (46 - r.length.toNat) 0#8
  fcs := (fcs (r.body A)).toList
  length_destination := length_bytesOf _ _
  length_source := length_bytesOf _ _
  length_lengthType := length_bytesOf _ _
  length_fcs := Vector.length_toList

variable {fcs A r}

lemma frame_bytes : (r.frame fcs A).bytes = r.onWire fcs A := rfl

lemma bytes_eq : r.bytes = r.destination ++ r.typeField ++ r.payload := rfl

@[simp] lemma length_destination : r.destination.length = 6 := length_bytesOf _ _

@[simp] lemma length_typeField : r.typeField.length = 2 := length_bytesOf _ _

@[simp] lemma length_payload : r.payload.length = r.length.toNat := length_bytesOf _ _

lemma length_body : (r.body A).length = 14 + max r.length.toNat 46 := by
  simp only [body, List.length_append, length_destination, length_typeField, length_payload,
    length_bytesOf, List.length_replicate]
  omega

lemma length_onWire : (r.onWire fcs A).length = 18 + max r.length.toNat 46 := by
  rw [onWire, List.length_append, length_body, Vector.length_toList]
  omega

/-- The MAC completes what the call loaded to the frame of the request. -/
lemma outgoing_eq {c : Chip} (h : MacRegisters A c.sfr) (hb : Buffered r.bytes c)
    (hst : c.sfr ERXST = 0x2000#16) : c.outgoing fcs = r.onWire fcs A := by
  have htake : r.bytes.take 6 = r.destination := by
    rw [bytes_eq, List.append_assoc, List.take_left' length_destination]
  have hdrop : r.bytes.drop 6 = r.typeField ++ r.payload := by
    rw [bytes_eq, List.append_assoc, List.drop_left' length_destination]
  have hpad : c.padded = r.body A := by
    have hlen : 60 - (r.destination ++ bytesOf A 6 ++ (r.typeField ++ r.payload)).length =
        46 - r.length.toNat := by
      simp only [List.length_append, length_destination, length_typeField, length_payload,
        length_bytesOf]
      omega
    rw [h.padded hb hst, htake, hdrop, hlen, body]
    simp only [List.append_assoc]
  rw [h.outgoing, hpad, onWire]

end Request

end Enc624j600
