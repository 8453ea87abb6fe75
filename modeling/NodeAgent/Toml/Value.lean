/-
This file defines the values of a configuration text. Of a date or a time only its written form is
kept. A table holds each key once.
-/

namespace NodeAgent

/-- A value of a configuration text. -/
inductive Toml where
  | text (value : String)
  | whole (value : Int)
  | double (bits : UInt64)
  | bool (value : Bool)
  | moment (written : String)
  | list (items : List Toml)
  | table (entries : List (String × Toml))
deriving Inhabited

namespace Toml

/-- The value at a key of some entries. -/
def lookup (key : String) : List (String × Toml) → Option Toml
  | [] => none
  | (name, value) :: rest => if name = key then some value else lookup key rest

end Toml

end NodeAgent
