import ProofDesk.Uri.Encoding

namespace ProofDesk

/-- Who serves a resource: user name and password, the host, and the number of the
service if it is not the usual one. -/
structure Authority where
  user : Text := []
  password : Text := []
  host : Text := []
  service : Option Nat := none
deriving DecidableEq, Repr

/-- A URI in normal form. A path starts with a slash, unless it is a text without inner structure or
follows an authority and is empty. -/
structure Uri where
  scheme : Text
  authority : Option Authority := none
  path : Text
  query : Option Text := none
  fragment : Option Text := none
deriving DecidableEq, Repr

namespace Authority

def render (a : Authority) : Text :=
  (if a.user.isEmpty && a.password.isEmpty then []
    else a.user ++ (if a.password.isEmpty then [] else ':' :: a.password) ++ ['@'])
  ++ a.host
  ++ (match a.service with
    | some n => ':' :: Text.ofNat n
    | none => [])

end Authority

namespace Uri

def specialSchemes : List (Text × Option Nat) := [
  ("ftp".toList, some 21), ("file".toList, none), ("http".toList, some 80),
  ("https".toList, some 443), ("ws".toList, some 80), ("wss".toList, some 443)]

def isSpecial (scheme : Text) : Bool :=
  specialSchemes.any fun e => e.1 == scheme

def usualService? (scheme : Text) : Option Nat :=
  (specialSchemes.find? fun e => e.1 == scheme).bind Prod.snd

def fileScheme : Text := "file".toList

def isOpaque (u : Uri) : Bool :=
  u.authority.isNone && u.path.head? != some '/'

/-- The text of a URI. Without an authority, a path that starts with an empty segment is written
after `/.`, so that it is not read as an authority. -/
def render (u : Uri) : Text :=
  u.scheme ++ [':']
    ++ (match u.authority with
      | some a => '/' :: '/' :: a.render
      | none => if Text.startsWith u.path "//".toList then ['/', '.'] else [])
    ++ u.path
    ++ (match u.query with
      | some q => '?' :: q
      | none => [])
    ++ (match u.fragment with
      | some f => '#' :: f
      | none => [])

end Uri

end ProofDesk
