import PpmlIot.Signecc.CommandRoundTrip
import PpmlIot.Signecc.Node
import PpmlIot.Signecc.ReplyRouting

/-!
# Sequence numbers

Commands and replies share the devices of a node, and each frame takes the sequence number of its
device.  Over a run of commands and receptions the frames handed to one device are numbered without
a gap, and nothing else about the device ever changes.
-/

namespace PpmlIot.Signecc

open Library

/-- A device that has used up some sequence numbers. -/
def Netdev.advance (dev : Netdev) (count : Nat) : Netdev :=
  { dev with seq := dev.seq + UInt8.ofNat count }

/-- The frames handed to drivers in a run, with their devices. -/
def transmissions (crypto : Crypto) (net : Ieee802154) (node : NodeState) (events : List Event) :
    List (Nat × List UInt8 × List UInt8) :=
  (steps (advance crypto net) node events).flatMap fun step =>
    (perform crypto net step.1 step.2).actions.filterMap transmission

/-- The headers handed to a device one after the other, each built for some destination with the
next sequence number. -/
def Numbered (net : Ieee802154) (dev : Netdev) (headers : List (List UInt8)) : Prop :=
  ∀ count header, headers[count]? = some header →
    ∃ dstPan dst, header = buildHeader net (dev.advance count) dstPan dst

theorem advance_advance (dev : Netdev) (first second : Nat) :
    (dev.advance first).advance second = dev.advance (first + second) := by
  simp [Netdev.advance, UInt8.ofNat_add, UInt8.add_assoc]

theorem advance_zero (dev : Netdev) : dev.advance 0 = dev := by
  simp [Netdev.advance]

theorem Numbered.nil (net : Ieee802154) (dev : Netdev) : Numbered net dev [] := by
  intro count header found
  cases found

theorem Numbered.cons {net : Ieee802154} {dev : Netdev} {headers : List (List UInt8)}
    (dstPan : UInt16) (dst : List UInt8) (numbered : Numbered net (dev.advance 1) headers) :
    Numbered net dev (buildHeader net dev dstPan dst :: headers) := by
  intro count header found
  cases count with
  | zero =>
      obtain rfl : buildHeader net dev dstPan dst = header := Option.some.inj found
      exact ⟨dstPan, dst, by rw [advance_zero]⟩
  | succ count =>
      obtain ⟨dstPan, dst, built⟩ := numbered count header found
      exact ⟨dstPan, dst, by rw [built, advance_advance, Nat.add_comm]⟩

end PpmlIot.Signecc
