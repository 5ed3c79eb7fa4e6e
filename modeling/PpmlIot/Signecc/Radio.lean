import PpmlIot.Crypto
import PpmlIot.Library.Hex

/-!
# Radios and frames

The radio devices of a `signecc` node, RIOT's header functions as far as the program calls them, and
the code that `send` and `send2` share: choosing the device, building the MAC header and handing
header and payload to the driver.  What a function does is the list of its actions, in order.
-/

namespace PpmlIot.Signecc

open Library

/-- The fields of `netdev_ieee802154_t` that the program reads or writes. -/
structure Netdev where
  flags : UInt16
  pan : UInt16
  longAddr : List.Vector UInt8 8
  shortAddr : List.Vector UInt8 2
  seq : UInt8
  deriving DecidableEq

/-- The array `devs`, which has `AT86RF2XX_NUM` elements. -/
structure Radios where
  devs : List Netdev
  nonempty : 0 < devs.length

/-- The parts of RIOT's IEEE 802.15.4 support that the program calls. -/
structure Ieee802154 where
  /-- `ieee802154_get_frame_hdr_len`, 0 for an unexpected header. -/
  getFrameHdrLen : Memory → Nat
  /-- `ieee802154_get_dst`: destination address and PAN of a frame. -/
  getDst : Memory → List UInt8 × UInt16
  /-- `ieee802154_get_src`: source address and PAN of a frame. -/
  getSrc : Memory → List UInt8 × UInt16
  getSeq : Memory → UInt8
  /-- `ieee802154_set_frame_hdr` on source, destination, their PANs, the flags and the sequence
  number: the header it writes, whose length is the value returned. -/
  setFrameHdr : List UInt8 → List UInt8 → UInt16 → UInt16 → UInt8 → UInt8 → List UInt8
  sendMask : UInt16
  srcModeLong : UInt16

def fcfTypeData : UInt8 := 0x01

/-- What a range of the receive buffer is read for. -/
inductive Use
  | header
  | dump
  | tag
  | message
  | signature
  | digest
  | printed
  deriving DecidableEq

/-- The observable actions of a node. -/
inductive Action
  | print (text : Text)
  /-- Take the branch for the result of `uECC_verify`. -/
  | report (verified : Bool)
  /-- Read `length` bytes of the receive buffer from index `start`. -/
  | read (use : Use) (start length : Nat)
  /-- Branch on the first payload byte of a received frame. -/
  | dispatch (tag : UInt8)
  | hash (message : List UInt8) (digest : Digest)
  | sign (digest : Digest) (outcome : Option Signature)
  | verify (digest : Digest) (signature : Signature)
  | send2 (iface : Int) (dstPan : UInt16) (dst data : List UInt8)
  | transmit (device : Nat) (header payload : List UInt8)
  deriving DecidableEq

def Action.say (text : String) : Action := .print text.toList

/-- The line printed for a verification verdict. -/
def verdictText (verified : Bool) : Text :=
  (if verified then "\nSignature verification OK\n" else "\nSignature verification FAILED\n").toList

/-- Reduction to an unsigned 32-bit number, as in a cast from `int`. -/
def unsigned (value : Int) : Nat := (value % 4294967296).toNat

/-- Subtraction in the 32-bit type `size_t`. -/
def sizeSub (left right : Nat) : Nat := (left + 4294967296 - right) % 4294967296

theorem sizeSub_of_le {left right : Nat} (le : right ≤ left) (fits : left < 4294967296) :
    sizeSub left right = left - right := by
  rw [sizeSub]
  omega

def byteorderSwaps (value : UInt16) : UInt16 := (value <<< 8) ||| (value >>> 8)

/-- `byteorder_htons` on a little-endian host. -/
def byteorderHtons (value : UInt16) : UInt16 := byteorderSwaps value

def byteorderBtols (value : UInt16) : UInt16 := byteorderSwaps value

/-- The two bytes of a `le_uint16_t`. -/
def lePair (value : UInt16) : List UInt8 := Hex.bytesLE 2 value.toNat

theorem toNat_pair (first second : UInt8) :
    (first.toUInt16 ||| second.toUInt16 <<< 8).toNat = first.toNat + 256 * second.toNat := by
  have first_lt := first.toNat_lt
  have second_lt := second.toNat_lt
  have sum := Nat.shiftLeft_add_eq_or_of_lt (show first.toNat < 2 ^ 8 from first_lt) second.toNat
  rw [Nat.shiftLeft_eq] at sum
  rw [UInt16.toNat_or, UInt16.toNat_shiftLeft, UInt8.toNat_toUInt16, UInt8.toNat_toUInt16,
    Nat.shiftLeft_eq, Nat.mod_eq_of_lt (by simp; omega), Nat.or_comm]
  change second.toNat * 2 ^ 8 ||| first.toNat = _
  rw [← sum]
  omega

theorem toNat_byteorderSwaps (value : UInt16) :
    (byteorderSwaps value).toNat = 256 * (value.toNat % 256) + value.toNat / 256 := by
  have value_lt := value.toNat_lt
  have upper : value.toNat / 256 < 2 ^ 8 := by omega
  have sum := Nat.shiftLeft_add_eq_or_of_lt upper (value.toNat % 256)
  rw [Nat.shiftLeft_eq] at sum
  rw [byteorderSwaps, UInt16.toNat_or, UInt16.toNat_shiftLeft, UInt16.toNat_shiftRight]
  change value.toNat <<< 8 % 65536 ||| value.toNat >>> 8 = _
  have low : value.toNat * 2 ^ 8 % 65536 = value.toNat % 256 * 2 ^ 8 := by omega
  rw [Nat.shiftLeft_eq, Nat.shiftRight_eq_div_pow, low]
  rw [← sum]
  omega

def printAddr (addr : List UInt8) : Text :=
  addr.zipIdx.flatMap fun (byte, i) =>
    (if i ≠ 0 then [':'] else []) ++ Hex.fixed Nat.digitChar 2 byte.toNat

/-- The outcome of a function that may transmit a frame. -/
structure SendRun where
  result : Int
  actions : List Action
  radios : Radios

def Radios.update (radios : Radios) (index : Nat) (dev : Netdev) : Radios where
  devs := radios.devs.set index dev
  nonempty := by simpa using radios.nonempty

/-- The PAN of a device as a `le_uint16_t`. -/
def srcPan (dev : Netdev) : UInt16 := byteorderBtols (byteorderHtons dev.pan)

/-- The two conversions of a device's PAN cancel. -/
theorem srcPan_eq (dev : Netdev) : srcPan dev = dev.pan := by
  apply UInt16.toNat_inj.mp
  have := dev.pan.toNat_lt
  rw [srcPan, byteorderBtols, byteorderHtons, toNat_byteorderSwaps, toNat_byteorderSwaps]
  omega

/-- The destination PAN used for a requested one: zero means the device's own PAN. -/
def effectivePan (dev : Netdev) (dstPan : UInt16) : UInt16 :=
  if dstPan = 0 then srcPan dev else dstPan

/-- The header that `send` and `send2` ask for on a device. -/
def buildHeader (net : Ieee802154) (dev : Netdev) (dstPan : UInt16) (dst : List UInt8) :
    List UInt8 :=
  let flags := (dev.flags &&& net.sendMask).toUInt8 ||| fcfTypeData
  let src :=
    if dev.flags &&& net.srcModeLong ≠ 0 then dev.longAddr.toList else dev.shortAddr.toList
  net.setFrameHdr src dst (srcPan dev) (effectivePan dev dstPan) flags dev.seq

/-- The common body of `send` and `send2`, on the bytes that the payload vector describes. -/
def sendFrame (net : Ieee802154) (driverSend : List UInt8 → List UInt8 → Int) (radios : Radios)
    (iface : Int) (dstPan : UInt16) (dst data : List UInt8) : SendRun :=
  if outside : unsigned iface > radios.devs.length - 1 then
    { result := 1
      actions :=
        [.print ("txtsnd: ".toList ++ Text.decimal iface ++ " is not an interface\n".toList)]
      radios }
  else
    let dev := radios.devs.get ⟨unsigned iface, by have := radios.nonempty; omega⟩
    let mhr := buildHeader net dev dstPan dst
    let radios := radios.update (unsigned iface) { dev with seq := dev.seq + 1 }
    -- `ieee802154_set_frame_hdr` returns an unsigned length, so this branch is never taken
    if (mhr.length : Int) < 0 then
      { result := 1, actions := [.say "txtsnd: Error preperaring frame\n"], radios }
    else if driverSend mhr data < 0 then
      { result := 1
        actions := [.transmit (unsigned iface) mhr data, .say "txtsnd: Error on sending\n"]
        radios }
    else
      { result := 0
        actions :=
          [.transmit (unsigned iface) mhr data,
            .print ("txtsnd: send ".toList ++ Text.decimal data.length ++ " bytes to ".toList),
            .print (printAddr dst), .say " (PAN: ",
            .print (printAddr (lePair (effectivePan dev dstPan))), .say ")\n"]
        radios }

/-- `send2`: the payload is the first `dataLength` bytes of `data`. -/
def send2 (net : Ieee802154) (driverSend : List UInt8 → List UInt8 → Int) (radios : Radios)
    (iface : Int) (dstPan : UInt16) (dst : List UInt8) (data : Memory) (dataLength : UInt8) :
    SendRun :=
  sendFrame net driverSend radios iface dstPan dst (data.slice 0 dataLength.toNat)

/-- `send`: the payload is the C string at `data`. -/
def send (net : Ieee802154) (driverSend : List UInt8 → List UInt8 → Int) (radios : Radios)
    (iface : Int) (dstPan : UInt16) (dst data : List UInt8) : SendRun :=
  sendFrame net driverSend radios iface dstPan dst (Memory.cString data)

/-! ## Observations

A statement about a node looks at some of its actions only.  Most observations see neither the
console nor the reads of the receive buffer, and so pass over most of what a function does.
-/

/-- An observation blind to the console and to the reads of the buffer. -/
structure Blind {β : Type*} (pick : Action → Option β) : Prop where
  print : ∀ text, pick (.print text) = none
  read : ∀ use start length, pick (.read use start length) = none

theorem Blind.say {β : Type*} {pick : Action → Option β} (blind : Blind pick) (text : String) :
    pick (.say text) = none :=
  blind.print text.toList

theorem filterMap_cons_toList {α β : Type*} (pick : α → Option β) (first : α) (rest : List α) :
    (first :: rest).filterMap pick = (pick first).toList ++ rest.filterMap pick := by
  rw [List.filterMap_cons]
  cases pick first <;> rfl

/-- A frame handed to the driver: device, header and payload. -/
def transmission : Action → Option (Nat × List UInt8 × List UInt8)
  | .transmit device header payload => some (device, header, payload)
  | _ => none

/-- A call of the signing primitive: digest and outcome. -/
def signingCall : Action → Option (Digest × Option Signature)
  | .sign digest outcome => some (digest, outcome)
  | _ => none

def replyData : Action → Option (List UInt8)
  | .send2 _ _ _ data => some data
  | _ => none

def hashedMessage : Action → Option (List UInt8)
  | .hash message _ => some message
  | _ => none

def verification : Action → Option (Digest × Signature)
  | .verify digest signature => some (digest, signature)
  | _ => none

def verdict : Action → Option Bool
  | .report verified => some verified
  | _ => none

def dispatchedTag : Action → Option UInt8
  | .dispatch tag => some tag
  | _ => none

theorem blind_transmission : Blind transmission := ⟨fun _ => rfl, fun _ _ _ => rfl⟩

theorem blind_signingCall : Blind signingCall := ⟨fun _ => rfl, fun _ _ _ => rfl⟩

theorem blind_replyData : Blind replyData := ⟨fun _ => rfl, fun _ _ _ => rfl⟩

theorem blind_hashedMessage : Blind hashedMessage := ⟨fun _ => rfl, fun _ _ _ => rfl⟩

theorem blind_verification : Blind verification := ⟨fun _ => rfl, fun _ _ _ => rfl⟩

theorem blind_verdict : Blind verdict := ⟨fun _ => rfl, fun _ _ _ => rfl⟩

theorem blind_dispatchedTag : Blind dispatchedTag := ⟨fun _ => rfl, fun _ _ _ => rfl⟩

/-- On an existing interface exactly one frame goes to the driver. -/
theorem sendFrame_filterMap {β : Type*} {pick : Action → Option β} (blind : Blind pick)
    (net : Ieee802154) (driverSend : List UInt8 → List UInt8 → Int) {radios : Radios} {iface : Int}
    (inside : unsigned iface < radios.devs.length) (dstPan : UInt16) (dst data : List UInt8) :
    (sendFrame net driverSend radios iface dstPan dst data).actions.filterMap pick =
      (pick (.transmit (unsigned iface)
        (buildHeader net (radios.devs.get ⟨unsigned iface, inside⟩) dstPan dst) data)).toList := by
  have nonempty := radios.nonempty
  have inside' : ¬ unsigned iface > radios.devs.length - 1 := by omega
  have length_nonneg : ¬ ((buildHeader net (radios.devs.get ⟨unsigned iface, inside⟩) dstPan
      dst).length : Int) < 0 := by
    omega
  simp only [sendFrame, inside', dite_false, length_nonneg, if_false]
  split <;> simp [filterMap_cons_toList, blind.print, blind.say]

/-- On an existing interface one sequence number is used up, and nothing else changes. -/
theorem sendFrame_radios {net : Ieee802154} {driverSend : List UInt8 → List UInt8 → Int}
    {radios : Radios} {iface : Int} {dstPan : UInt16} {dst data : List UInt8}
    (inside : unsigned iface < radios.devs.length) :
    (sendFrame net driverSend radios iface dstPan dst data).radios =
      let dev := radios.devs.get ⟨unsigned iface, inside⟩
      radios.update (unsigned iface) { dev with seq := dev.seq + 1 } := by
  have nonempty := radios.nonempty
  have inside' : ¬ unsigned iface > radios.devs.length - 1 := by omega
  simp only [sendFrame, inside', dite_false]
  split
  · rfl
  · split <;> rfl

end PpmlIot.Signecc
