/-
This file reads the address of an orchestrator. Only plain connections are made, so an address has
the scheme `ws`; what follows the host is the target that is asked for there.
-/

namespace NodeAgent.Rpc

/-- An address: whom to connect to, and what to ask for there. -/
structure Address where
  authority : String
  target : String
deriving DecidableEq, Inhabited

namespace Address

/-- The address that is used where none is configured. -/
def standard : String := "ws://localhost:3000/ws/csi"

/-- Whether a character begins the part after the authority. -/
def endsAuthority (c : Char) : Bool := c = '/' || c = '?' || c = '#'

/-- Whether a character may stand in a target. -/
def isTargetChar (c : Char) : Bool := '!' ≤ c && c ≠ '<' && c ≠ '>' && c ≠ '\x7F'

/-- Reads an address. -/
def read? (text : String) : Option Address :=
  match text.toList with
  | 'w' :: 's' :: ':' :: '/' :: '/' :: rest =>
    let authority := rest.takeWhile (!endsAuthority ·)
    let target := (rest.dropWhile (!endsAuthority ·)).takeWhile (· ≠ '#')
    if authority = [] ∨ !(authority ++ target).all isTargetChar then none
    else some ⟨String.ofList authority,
      if target = [] then "/" else String.ofList target⟩
  | _ => none

end Address

end NodeAgent.Rpc
