import ProofDesk.Json.Number
import ProofDesk.Json.Reader

namespace ProofDesk.Json

def maxLevels : Nat := 127

mutual

/-- Nothing garbled, numbers in range, at most `levels` arrays and objects inside one another. -/
def isSettled (levels : Nat) : Json → Bool
  | null => true
  | bool _ => true
  | number n => n.inRange
  | text _ => true
  | array items => 0 < levels && allSettled (levels - 1) items
  | object members => 0 < levels && membersSettled (levels - 1) members
  | garbled => false

def allSettled (levels : Nat) : List Json → Bool
  | [] => true
  | x :: rest => isSettled levels x && allSettled levels rest

def membersSettled (levels : Nat) : List (Text × Json) → Bool
  | [] => true
  | m :: rest => isSettled levels m.2 && membersSettled levels rest

end

def settled? (s : Text) : Option Json :=
  (read? s).filter (isSettled maxLevels)

/-- Lexicographic order by code point, which is also the order of the UTF-8 bytes. -/
def nameBefore : Text → Text → Bool
  | [], [] => false
  | [], _ :: _ => true
  | _ :: _, [] => false
  | a :: as, b :: bs => a.toNat < b.toNat || (a == b && nameBefore as bs)

/-- Puts a member in its place in an ordered list, unless its name is there already. -/
def insertMember (m : Text × Json) : List (Text × Json) → List (Text × Json)
  | [] => [m]
  | x :: rest =>
    if m.1 = x.1 then x :: rest
    else if nameBefore m.1 x.1 then m :: x :: rest
    else x :: insertMember m rest

mutual

/-- The value with the names of every object in increasing order, each once, with its last
value. -/
def ordered : Json → Json
  | array items => array (orderedItems items)
  | object members => object (orderedMembers members)
  | null => null
  | bool b => bool b
  | number n => number n
  | text s => text s
  | garbled => garbled

def orderedItems : List Json → List Json
  | [] => []
  | x :: rest => ordered x :: orderedItems rest

def orderedMembers : List (Text × Json) → List (Text × Json)
  | [] => []
  | m :: rest => insertMember (m.1, ordered m.2) (orderedMembers rest)

end

mutual

def spell : Json → Text
  | null => "null".toList
  | bool true => "true".toList
  | bool false => "false".toList
  | number n => n.settled
  | text s => quote s
  | array items => '[' :: spellItems items ++ [']']
  | object members => '\x7b' :: spellMembers members ++ ['\x7d']
  | garbled => []

def spellItems : List Json → Text
  | [] => []
  | [x] => spell x
  | x :: y :: rest => spell x ++ ',' :: spellItems (y :: rest)

def spellMembers : List (Text × Json) → Text
  | [] => []
  | [(name, x)] => quote name ++ ':' :: spell x
  | (name, x) :: y :: rest => quote name ++ ':' :: spell x ++ ',' :: spellMembers (y :: rest)

end

end ProofDesk.Json
