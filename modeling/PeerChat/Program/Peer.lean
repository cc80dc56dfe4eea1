import PeerChat.Flags.Basic
import PeerChat.Peer.Basic
import PeerChat.Program.Outcome
import PeerChat.Url.Host

/-!
The peer program: its command line, and the address that it waits at.
-/

namespace PeerChat.Program

open Flags (Flag)

namespace Peer

def addressFlag : String := "bind-address"

def nameFlag : String := "name"

/-- The flag for someone who is online; it may be given several times. -/
def peerFlag : String := "peer"

def flags : List Flag := [⟨addressFlag, .text, false⟩, ⟨nameFlag, .text, false⟩, ⟨peerFlag, .text, true⟩]

def defaultAddress : String := "127.0.0.1:8080"

def defaultName : String := "me"

/-! ### Addresses -/

/-- Why a program cannot wait at an address. -/
inductive AddressFault
  /-- There is no colon in it. -/
  | noColon
  | badNumber
  | unknownHost
  /-- The number is kept for the system. -/
  | reserved
  /-- The host is another machine. -/
  | notHere
deriving DecidableEq, Repr

def AddressFault.message : AddressFault → String
  | noColon => "invalid socket address"
  | badNumber => "invalid port value"
  | reserved => "Permission denied (os error 13)"
  | unknownHost => "failed to lookup address information: Temporary failure in name resolution"
  | notHere => "Cannot assign requested address (os error 99)"

/-- A number of 16 bits, after a plus sign or not. -/
def number? (cs : List Char) : Option Nat :=
  let digits := match cs with
    | '+' :: rest => rest
    | cs => cs
  if digits ≠ [] ∧ digits.all Text.isDigit ∧ Text.ofDigits digits < UInt16.size then some (Text.ofDigits digits) else none

/-- Addresses of 32 bits on this machine: those that begin with 127, and the address of zeros. -/
def isHere4 (address : Nat) : Bool := address / 0x1000000 = 127 || address = 0

/-- Addresses of eight pieces on this machine: the last of the first two, and addresses of 32 bits on it. -/
def isHere6 : List Nat → Bool
  | [0, 0, 0, 0, 0, 0, 0, n] => n ≤ 1
  | [0, 0, 0, 0, 0, 0xFFFF, high, low] => isHere4 (UInt16.size * high + low)
  | _ => false

/-- Whether a host is on this machine; none if it is not known. An address of eight pieces stands in brackets or by
itself; in brackets it is not known if the number behind it is `signed`. -/
def isHere? (host : List Char) (signed : Bool) : Option Bool :=
  if host = "localhost".toList then some true
  else
    match host with
    | '[' :: rest =>
      if signed ∨ rest.getLast? ≠ some ']' then none else (Url.Host.ipv6? rest.dropLast).map isHere6
    | _ =>
      if host.contains ':' then (Url.Host.ipv6? host).map isHere6
      else if host.getLast? = some '.' then none
      else (Url.Host.ipv4? host).map isHere4

/-- What is wrong with an address, if anything: the number stands after the last colon, and the numbers below 1024 are
kept for the system. -/
def addressFault? (address : String) : Option AddressFault :=
  match Text.cutWhere (· == ':') address.toList.reverse with
  | none => some .noColon
  | some (number, host) =>
    match number? number.reverse with
    | none => some .badNumber
    | some n =>
      match isHere? host.reverse (number.getLast? = some '+') with
      | none => some .unknownHost
      | some here =>
        if 0 < n ∧ n < 1024 then some .reserved else if here then none else some .notHere

/-- The peer at its start, or the end of a run that could not begin. -/
def start (words : List String) : Except Outcome PeerChat.Peer :=
  match Flags.read flags words with
  | .error fault => .error (.ofFlagFault fault)
  | .ok given =>
    let address := (given.value? addressFlag).getD defaultAddress
    match addressFault? address with
    | some fault => .error (.failed 1 ("lanshare_devpeer: failed to bind " ++ address ++ ": " ++ fault.message))
    | none => .ok ((given.values peerFlag).foldl .join (.start ((given.value? nameFlag).getD defaultName)))

end Peer

end PeerChat.Program
