import Catalogue.Http.Host
import Catalogue.Http.Url.Path

/-!
# Addresses

An address is written in many ways; requests are sent, and errors worded, with its normal form.
There are three kinds of addresses:

* on the web (`http` and its kin): there is always a host, and a backslash is a slash;
* of files: there may be a host, and a path may begin with a drive;
* others: a host follows two slashes, and without any slash the rest of the address is taken as it
  is.

In the normal form the scheme, and the host of an address of the first two kinds, are in lower case,
a socket number that the scheme implies is left out, the steps of the path are carried out, and
every byte that an address may not hold is spelled.

* `Url` -- an address in its parts, `Url.text` -- its normal form;
* `Url.parse?` -- the address a text denotes;
* `Url.join?` -- the address a text denotes when it is found in a reply from another address;
* `Url.isSendable` -- whether a request can be sent there.
-/

namespace Catalogue.Http

/-- Where an address leads: a host, which may be empty, and what stands beside it. -/
structure Authority where
  user : String
  password : Option String
  host : Host
  /-- The socket number. -/
  socket : Option Nat
  deriving DecidableEq, Repr

namespace Authority

/-- The authority of a host alone. -/
def ofHost (h : Host) : Authority := ⟨"", none, h, none⟩

/-- Whether a user or a password is given. -/
def hasUser (a : Authority) : Bool := a.user != "" || a.password.isSome

/-- The normal form. -/
def text (a : Authority) : String :=
  (if a.hasUser then a.user ++ (a.password.map (":" ++ ·)).getD "" ++ "@" else "") ++ a.host.text
    ++ (a.socket.map (":" ++ decimalText ·)).getD ""

/-- Whether what a text spells is a text as well. -/
def isReadable (s : String) : Bool := (textOf? (percentDecoded (bytesOf s))).isSome

/-- The authority as requests name it. Its user and password go into a header instead, unless they
    cannot be read. -/
def withoutUser (a : Authority) : Authority :=
  let read := isReadable a.user && (a.user != "" || a.password.all isReadable)
  if read then { a with user := "", password := none } else a

end Authority

/-- An address in normal form. -/
structure Url where
  scheme : String
  authority : Option Authority
  path : String
  query : Option String
  fragment : Option String
  deriving DecidableEq, Repr

namespace Url

/-- The normal form. A path that begins with two slashes has a step in front if they would read like
    those of an authority. -/
def text (u : Url) : String :=
  let front := match u.authority with
    | some a => "//" ++ a.text
    | none => if u.path.toList.take 2 = ['/', '/'] then "/." else ""
  u.scheme ++ ":" ++ front ++ u.path ++ (u.query.map ("?" ++ ·)).getD ""
    ++ (u.fragment.map ("#" ++ ·)).getD ""

/-! ## 1. Schemes -/

/-- The schemes of the web, with the socket number each implies. -/
def webSchemes : List (String × Nat) :=
  [("http", 80), ("https", 443), ("ftp", 21), ("ws", 80), ("wss", 443)]

/-- Whether a scheme is one of the web. -/
def isWeb (scheme : String) : Bool := (webSchemes.map Prod.fst).contains scheme

/-- The scheme of files. -/
def fileScheme : String := "file"

/-- The scheme at the front of a text, in lower case, and the text behind it. -/
def takeScheme (cs : List Char) : Option (String × List Char) :=
  match splitAtFirst ':' cs with
  | (c :: name, some rest) =>
    if c.isAlpha && name.all fun c => c.isAlphanum || c = '+' || c = '-' || c = '.' then
      some (lowerText (String.ofList (c :: name)), rest)
    else none
  | _ => none

/-! ## 2. Authorities -/

/-- The host in front of a socket number, and the text of the number. A colon in brackets ends no
    host. -/
def splitSocket : Bool → List Char → List Char × Option (List Char)
  | _, [] => ([], none)
  | inBrackets, c :: rest =>
    if c = ':' && !inBrackets then ([], some rest)
    else
      let inBrackets := if c = '[' then true else if c = ']' then false else inBrackets
      let (host, socket) := splitSocket inBrackets rest
      (c :: host, socket)

/-- The socket number that digits denote, unless the scheme implies it. Without digits there is
    none. -/
def socket? (scheme : String) (digits : List Char) : Option (Option Nat) :=
  match digits with
  | [] => some none
  | _ => do
    let n ← (natural? digits).filter (· < 65536)
    some (if webSchemes.contains (scheme, n) then none else some n)

/-- The user and the password that a text denotes. An empty password is none. -/
def user (cs : List Char) : String × Option String :=
  let (name, password) := splitAtFirst ':' cs
  (spell userSpelled name, (password.filter (· ≠ [])).map (spell userSpelled))

/-- The authority on the web that a text denotes. -/
def webAuthority? (scheme : String) (cs : List Char) : Option Authority := do
  let (before, behind) := splitAtLast '@' cs
  let (name, password) := user (before.getD [])
  let (host, socket) := splitSocket false behind
  let host ← Host.parse? host
  let socket ← socket? scheme (socket.getD [])
  some ⟨name, password, host, socket⟩

/-- Any other authority that a text denotes, and what is left of the text. A backslash ends the
    socket number, and an empty host stands alone. `isLast` says that the address ends with the
    text. -/
def plainAuthority? (scheme : String) (isLast : Bool) (cs : List Char) :
    Option (Authority × List Char) := do
  let (before, behind) := splitAtLast '@' cs
  let (name, password) := user (before.getD [])
  let (host, socket) := splitSocket false behind
  let digits := (socket.getD []).takeWhile (· ≠ '\\')
  let rest := (socket.getD []).dropWhile (· ≠ '\\')
  let a : Authority := ⟨name, password, ← Host.parsePlain? host, ← socket? scheme digits⟩
  let standsAlone := socket.isNone && !a.hasUser && (before ≠ some [] || isLast)
  if host.isEmpty && !standsAlone then none else some (a, rest)

/-! ## 3. The three kinds of addresses -/

/-- What stands in a text before its query and its fragment, and these two. -/
structure Parts where
  main : List Char
  query : Option (List Char)
  fragment : Option (List Char)

/-- The parts of a text. -/
def Parts.ofChars (cs : List Char) : Parts :=
  let (cs, fragment) := splitAtFirst '#' cs
  let (cs, query) := splitAtFirst '?' cs
  ⟨cs, query, fragment⟩

/-- The address with the query and the fragment of a text. -/
def Parts.url (p : Parts) (scheme : String) (authority : Option Authority) (path : String) :
    Url where
  scheme
  authority
  path
  query := p.query.map (spell (querySpelled (isWeb scheme || scheme = fileScheme)))
  fragment := p.fragment.map (spell fragmentSpelled)

/-- The address on the web whose host follows at once. -/
def ofWeb? (scheme : String) (p : Parts) (cs : List Char) : Option Url :=
  (webAuthority? scheme (cs.takeWhile (!isSlash ·))).map fun a =>
    p.url scheme a (normalPath isSlash ((cs.dropWhile (!isSlash ·)).drop 1))

/-- The host of a file and the text of its path. Neither a drive nor this machine is a host. -/
def fileHost? (cs : List Char) : Option (Host × List Char) :=
  let front := cs.takeWhile (!isSlash ·)
  let rest := cs.dropWhile (!isSlash ·)
  if front.isEmpty || isDrive front then some (.name "", cs)
  else
    (Host.parse? front).map fun h =>
      if h = .name "localhost" then (.name "", rest) else (h, rest.drop 1)

/-- The address of a file. One on a drive has no host. -/
def ofFile? (p : Parts) : Option Url := do
  let (host, cs) ← match p.main with
    | a :: b :: rest =>
      if isSlash a && isSlash b then fileHost? rest
      else some (Host.name "", if isSlash a then b :: rest else a :: b :: rest)
    | cs => some (Host.name "", cs.dropWhile isSlash)
  let (path, onDrive) := filePath cs
  some (p.url fileScheme (some (.ofHost (if onDrive then .name "" else host))) path)

/-- Any other address. -/
def ofOther? (scheme : String) (p : Parts) : Option Url :=
  let isSeparator (c : Char) : Bool := c = '/'
  match p.main with
  | '/' :: '/' :: rest => do
    let path := rest.dropWhile (· ≠ '/')
    let isLast := path.isEmpty && p.query.isNone && p.fragment.isNone
    let (a, left) ← plainAuthority? scheme isLast (rest.takeWhile (· ≠ '/'))
    let path := match left ++ path with
      | [] => ""
      | '/' :: below => normalPath isSeparator below
      | below => normalPath isSeparator below
    some (p.url scheme (some a) path)
  | '/' :: rest => some (p.url scheme none (normalPath isSeparator rest))
  | cs => some (p.url scheme none (spell isControlByte cs))

/-! ## 4. Texts -/

/-- A text without blanks and control characters around it, and without line breaks and tabs. -/
def cleaned (s : String) : List Char :=
  let outer (c : Char) : Bool := c.toNat ≤ 0x20
  (((s.toList.dropWhile outer).reverse.dropWhile outer).reverse).filter fun c =>
    c ≠ '\t' && c ≠ '\n' && c ≠ '\r'

/-- The address with a scheme that a text denotes. -/
def ofScheme? (scheme : String) (cs : List Char) : Option Url :=
  let p := Parts.ofChars cs
  if isWeb scheme then ofWeb? scheme p (p.main.dropWhile isSlash)
  else if scheme = fileScheme then ofFile? p
  else ofOther? scheme p

/-- The address a text denotes, if it begins with a scheme and its host is sound. -/
def parse? (s : String) : Option Url :=
  (takeScheme (cleaned s)).bind fun (scheme, cs) => ofScheme? scheme cs

/-- The segments that a path stands in, last one first. -/
def folder (path : String) : List String :=
  ((pieces (· = '/') path.toList).map String.ofList).reverse.drop 1

/-- The address on the web that a text without a scheme denotes in a reply from another one: a host
    behind two slashes, a path behind one slash, a path beside that of the other one, or, without a
    path, the other address with another query or fragment. -/
def beside? (base : Url) (cs : List Char) : Option Url :=
  let p := Parts.ofChars cs
  match p.main with
  | [] =>
    let u := p.url base.scheme base.authority base.path
    some (if p.query.isNone then { u with query := base.query } else u)
  | '/' :: '/' :: rest => ofWeb? base.scheme p rest
  | c :: rest =>
    if !isSlash c then
      let segments := segmentsBelow (folder base.path) isSlash p.main
      some (p.url base.scheme base.authority (joinSegments segments))
    else if (rest.head?.map isSlash).getD false then
      ofWeb? base.scheme p (rest.dropWhile isSlash)
    else some (p.url base.scheme base.authority (normalPath isSlash rest))

/-- The address a text denotes when it is found in a reply from one on the web. The scheme of that
    one, with fewer than two slashes behind it, may as well be left out. -/
def join? (base : Url) (s : String) : Option Url :=
  match takeScheme (cleaned s) with
  | none => beside? base (cleaned s)
  | some (scheme, cs) =>
    if scheme = base.scheme && (cs.takeWhile isSlash).length < 2 then beside? base cs
    else ofScheme? scheme cs

/-! ## 5. Requests -/

/-- The address as requests name it. -/
def withoutUser (u : Url) : Url := { u with authority := u.authority.map Authority.withoutUser }

/-- How many bytes the address of a request has at most. -/
def maxSize : Nat := 65534

/-- Whether a request can be sent to an address: it is one of the two schemes for that, its host has
    no quotes and braces, and it is not too long. -/
def isSendable (u : Url) : Bool :=
  let isFit (c : Char) : Bool := !("\"\x60\x7b\x7d".toList.contains c)
  ["http", "https"].contains u.scheme && (u.authority.all fun a => a.host.text.toList.all isFit) &&
    u.text.utf8ByteSize ≤ maxSize

end Url

end Catalogue.Http
