import GroupKeeper.Text.Lowercase

/-! Addresses of mailboxes. A directory knows one mailbox under many spellings: capitals never
matter, and full stops before the at sign do not either. Membership lists are therefore compared
with `equals`, and sets of addresses are kept by `canonical` form. -/

namespace GroupKeeper.Email

/-- The local part and the domain of an address with exactly one at sign. -/
def parts? (address : List Char) : Option (List Char × List Char) :=
  match address.dropWhile (· != '@') with
  | [] => none
  | _ :: domain =>
    if '@' ∈ domain then none else some (address.takeWhile (· != '@'), domain)

/-- A local part without its full stops. -/
def undotted (localPart : List Char) : List Char :=
  localPart.filter (· != '.')

/-- Whether two texts differ in capitals only. -/
def foldEq (a b : List Char) : Bool :=
  Text.lowerChars a == Text.lowerChars b

/-- Whether `a` and `b` name one mailbox: they differ in capitals only, or they do so once the full
stops are taken out of both local parts. -/
def equals (a b : String) : Bool :=
  foldEq a.toList b.toList ||
    match parts? a.toList, parts? b.toList with
    | some (aLocal, aDomain), some (bLocal, bDomain) =>
      foldEq aDomain bDomain && foldEq (undotted aLocal) (undotted bLocal)
    | _, _ => false

/-- Whether some address of `emails` names the mailbox `email`. -/
def contains (emails : List String) (email : String) : Bool :=
  emails.any (equals · email)

/-- The normal form of a list of characters. -/
def canonicalChars (address : List Char) : List Char :=
  match parts? address with
  | some (localPart, domain) =>
    Text.lowerChars (undotted localPart) ++ '@' :: Text.lowerChars domain
  | none => Text.lowerChars address

/-- The normal form of an address: small letters, and no full stop before a lone at sign. -/
def canonical (address : String) : String :=
  String.ofList (canonicalChars address.toList)

end GroupKeeper.Email
