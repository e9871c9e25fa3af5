import SearchStore.Http.Host
import SearchStore.Text.Base64
import SearchStore.Text.Blank

/-!
Addresses of an engine: the address of a node, and the identifier of a cloud
deployment that stands for one. An address is a scheme and, in the schemes of
the web, a host, which a user and a password may precede and a port follow. In
other schemes the host may be empty or missing.
-/

namespace SearchStore.Http

/-- The letters before the first colon, if they can be the scheme of an
address, and what follows the colon. -/
def scheme? (address : List Char) : Option (List Char × List Char) :=
  match address.span (· ≠ ':') with
  | (first :: others, _ :: rest) =>
    if first.isAlpha && others.all (fun c => c.isAlphanum || c = '+' || c = '-' || c = '.') then
      some ((first :: others).map Char.toLower, rest)
    else none
  | _ => none

/-- Schemes whose addresses have a host. -/
def webSchemes : List String := ["http", "https", "ws", "wss", "ftp"]

/-- A slash, or a backslash where that is one too. -/
def isSlash (withBackslash : Bool) (c : Char) : Bool := c = '/' || (withBackslash && c = '\\')

/-- Whether a character starts the path, the query or the fragment. -/
def endsHost (withBackslash : Bool) (c : Char) : Bool :=
  isSlash withBackslash c || c = '?' || c = '#'

/-- Cuts a text in two before its first colon outside brackets. -/
def cutAtPort (inBrackets : Bool) : List Char → List Char × List Char
  | [] => ([], [])
  | c :: rest =>
    if c = ':' && !inBrackets then ([], c :: rest)
    else
      let (host, port) := cutAtPort (c = '[' || (inBrackets && c ≠ ']')) rest
      (c :: host, port)

/-- Whether a port is a number of sixteen bits; an empty one is the usual port. -/
def isPort (port : List Char) : Bool :=
  decimalValue (port.takeWhile Char.isDigit) < 65536
    && (port.dropWhile Char.isDigit).head?.all (isSlash true)

/-- Whether a user is given before a host. A lone colon gives none, and nothing
at all does only where a path has to follow it. -/
def hasUser (user : Option (List Char)) (beforePath : Bool) : Bool :=
  match user with
  | none => false
  | some [] => beforePath
  | some user => user ≠ [':']

/-- Whether user, host and port may stand at the front of a text. There is no
port and no user without a host. -/
def hasAuthority (isWeb : Bool) (text : List Char) : Bool :=
  let authority := text.takeWhile (!endsHost isWeb ·)
  let hostAndPort := (authority.reverse.takeWhile (· ≠ '@')).reverse
  let user :=
    if authority.contains '@' then some (authority.take (authority.length - hostAndPort.length - 1))
    else none
  let (host, port) := cutAtPort false hostAndPort
  (if isWeb then isWebHost host else isPlainHost host)
    && !(host.isEmpty && (!port.isEmpty || hasUser user (authority.length < text.length)))
    && isPort (port.drop 1)

def isDrive : List Char → Bool
  | [letter, mark] => letter.isAlpha && (mark = ':' || mark = '|')
  | _ => false

/-- Whether a text is the address of a node. Controls and blanks around it do
not count, nor do tabs and line breaks within. -/
def isAddress (address : String) : Bool :=
  let isAround (c : Char) : Bool := c.toNat ≤ 0x20
  let trimmed := ((address.toList.dropWhile isAround).reverse.dropWhile isAround).reverse
  match scheme? (trimmed.filter fun c => c ≠ '\t' && c ≠ '\n' && c ≠ '\r') with
  | none => false
  | some (scheme, rest) =>
    if webSchemes.contains (String.ofList scheme) then
      hasAuthority true (rest.dropWhile (isSlash true))
    else
      let isFile := String.ofList scheme = "file"
      match rest with
      | first :: second :: rest =>
        if !(isSlash isFile first && isSlash isFile second) then true
        else if isFile then
          let host := rest.takeWhile (!endsHost true ·)
          host.isEmpty || isDrive host || isWebHost host
        else hasAuthority false rest
      | _ => true

/-- The text of bytes without white space around it, if something is left. -/
def trimmedText? (bytes : List UInt8) : Option String := do
  let text ← String.fromUTF8? ⟨bytes.toArray⟩
  let trimmed := ((text.toList.dropWhile Text.isWhite).reverse.dropWhile Text.isWhite).reverse
  guard !trimmed.isEmpty
  return String.ofList trimmed

/-- Whether a text identifies a cloud deployment: a name, a colon, and in base
64 a domain and an identifier with dollar signs after and between them, which
make up the address of a node. -/
def isDeployment (identifier : String) : Bool :=
  match identifier.toList.span (· ≠ ':') with
  | (_ :: _, _ :: data) =>
    match (Text.Base64.decode? data).map (·.span (· ≠ '$'.toUInt8)) with
    | some (domain, _ :: rest) =>
      match trimmedText? domain, trimmedText? (rest.takeWhile (· ≠ '$'.toUInt8)) with
      | some domain, some name => isAddress ("https://" ++ name ++ "." ++ domain)
      | _, _ => false
    | _ => false
  | _ => false

end SearchStore.Http
