import OutOfBand.Url.Basic

/-! # Reading URLs

A URL is read alone or against a base. Blanks and control characters around it and tabs and line
breaks in it do not count; in the schemes of the web a backslash is a slash. Dot segments are resolved
while the path is read.
-/
namespace OutOfBand.Url

def isOuterBlank (c : Char) : Bool := c.toNat ≤ 0x20

def isInnerBlank (c : Char) : Bool := c == '\t' || c == '\n' || c == '\r'

/-- What counts of an input. -/
def significant (cs : List Char) : List Char :=
  (Text.dropEndWhile isOuterBlank (cs.dropWhile isOuterBlank)).filter (!isInnerBlank ·)

/-- The text up to the first `c`, and what follows it if it occurs. -/
def cut (c : Char) (cs : List Char) : List Char × Option (List Char) :=
  (cs.takeWhile (· != c), match cs.dropWhile (· != c) with
    | [] => none
    | _ :: rest => some rest)

def isSchemeChar (c : Char) : Bool := c.isAlphanum || c == '+' || c == '-' || c == '.'

/-- A scheme and what follows its colon. -/
def scheme? (cs : List Char) : Option (List Char × List Char) :=
  match cs with
  | [] => none
  | c :: _ =>
    if c.isAlpha then
      match cut ':' cs with
      | (scheme, some rest) => if scheme.all isSchemeChar then some (scheme.map Text.asciiLower, rest) else none
      | (_, none) => none
    else none

/-! ## Authority -/

/-- Split at the last `@`. -/
def splitUserInfo (cs : List Char) : Option (List Char) × List Char :=
  if cs.contains '@' then
    let host := (cs.reverse.takeWhile (· != '@')).reverse
    (some (cs.take (cs.length - host.length - 1)), host)
  else (none, cs)

/-- The host ends at the first colon outside brackets. -/
def splitPort (inside : Bool) : List Char → List Char × Option (List Char)
  | [] => ([], none)
  | c :: rest =>
    if c = ':' ∧ !inside then ([], some rest)
    else
      let (host, port) := splitPort (if c = '[' then true else if c = ']' then false else inside) rest
      (c :: host, port)

/-- A port up to 65535; none if it is empty or the default. -/
def port? (scheme : List Char) : List Char → Except Fault (Option Nat)
  | [] => .ok none
  | digits =>
    match whole? 10 digits with
    | some port =>
      if 65535 < port then .error .portNumber
      else .ok (if defaultPort? scheme = some port then none else some port)
    | none => .error .portNumber

def userInfoParts (info : List Char) : List Char × Option (List Char) :=
  let (username, password) := cut ':' info
  (percentEncode inUserInfo username, (password.filter (!·.isEmpty)).map (percentEncode inUserInfo))

def authorityOf (scheme text : List Char) : Except Fault Authority := do
  let (info, rest) := splitUserInfo text
  let (hostText, portText) := splitPort false rest
  let (username, password) := userInfoParts (info.getD [])
  let host ←
    if (defaultPort? scheme).isSome then (if hostText.isEmpty then .error .emptyHost else Host.ofChars hostText)
    else if isFile scheme && !hostText.isEmpty then Host.ofChars hostText
    else Host.opaqueOfChars hostText
  let known := !username.isEmpty || password.isSome
  if hostText.isEmpty && (known || portText.isSome) then .error .emptyHost
  else do
    let port ← port? scheme (portText.getD [])
    .ok ⟨username, password, host, port⟩

/-! ## Path -/

def isDot (segment : List Char) : Bool :=
  [".", "%2e"].contains (Text.lowerAscii (String.ofList segment))

def isDoubleDot (segment : List Char) : Bool :=
  ["..", "%2e.", ".%2e", "%2e%2e"].contains (Text.lowerAscii (String.ofList segment))

/-- Put segments onto a path, whose last segment comes first in `path`. A double dot takes the last
segment away; dots at the end leave an empty segment. -/
def placeSegments (path : List (List Char)) : List (List Char) → List (List Char)
  | [] => path
  | [last] =>
    if isDoubleDot last then [] :: path.tail
    else if isDot last then [] :: path
    else percentEncode inPath last :: path
  | segment :: rest =>
    if isDoubleDot segment then placeSegments path.tail rest
    else if isDot segment then placeSegments path rest
    else placeSegments (percentEncode inPath segment :: path) rest

def isSlash (special : Bool) (c : Char) : Bool := c == '/' || (special && c == '\\')

/-- The path that `text` leads to from the segments of `start`. -/
def pathFrom (special : Bool) (start : List (List Char)) (text : List Char) : Path :=
  .segments (placeSegments start.reverse (Text.splitOn (isSlash special) text)).reverse

/-- The path behind an authority. -/
def pathAfterAuthority (special : Bool) : List Char → Path
  | [] => if special then .segments [[]] else .segments []
  | _ :: rest => pathFrom special [] rest

/-! ## The whole -/

/-- Authority and path behind the slashes. -/
def behindSlashes (scheme text : List Char) (query fragment : Option (List Char)) : Except Fault Url := do
  let special := isSpecial scheme
  let authority ← authorityOf scheme (text.takeWhile (!isSlash special ·))
  .ok ⟨scheme, some authority, pathAfterAuthority special (text.dropWhile (!isSlash special ·)), query, fragment⟩

def queryEscape (scheme : List Char) : List Char → List Char :=
  percentEncode (if isSpecial scheme then inSpecialQuery else inQuery)

/-- A text without a scheme, read against a base with a path of segments. -/
def relative (base : Url) (parts : List (List Char)) (text : List Char) (query fragment : Option (List Char)) :
    Except Fault Url :=
  let special := isSpecial base.scheme
  let slash := isSlash special
  match text with
  | [] => .ok { base with query := query.or base.query, fragment := fragment }
  | a :: b :: rest =>
    if slash a && slash b then
      behindSlashes base.scheme (if special then rest.dropWhile slash else rest) query fragment
    else if slash a then
      .ok { base with path := pathFrom special [] (b :: rest), query := query, fragment := fragment }
    else .ok { base with path := pathFrom special parts.dropLast text, query := query, fragment := fragment }
  | [a] =>
    if slash a then .ok { base with path := .segments [[]], query := query, fragment := fragment }
    else .ok { base with path := pathFrom special parts.dropLast [a], query := query, fragment := fragment }

/-- A text that names its scheme. -/
def withScheme (base : Option Url) (scheme text : List Char) (query fragment : Option (List Char)) : Except Fault Url :=
  if isSpecial scheme then
    let slashes := (text.takeWhile (isSlash true)).length
    match base with
    | some ⟨baseScheme, authority, .segments parts, baseQuery, baseFragment⟩ =>
      if slashes < 2 ∧ baseScheme = scheme then
        relative ⟨baseScheme, authority, .segments parts, baseQuery, baseFragment⟩ parts text query fragment
      else behindSlashes scheme (text.dropWhile (isSlash true)) query fragment
    | _ =>
      if isFile scheme then behindSlashes scheme (text.drop (min slashes 2)) query fragment
      else behindSlashes scheme (text.dropWhile (isSlash true)) query fragment
  else match text with
    | '/' :: '/' :: rest => behindSlashes scheme rest query fragment
    | '/' :: rest => .ok ⟨scheme, none, pathFrom false [] rest, query, fragment⟩
    | text => .ok ⟨scheme, none, .plain (percentEncode (fun _ => false) text), query, fragment⟩

def readChars (base : Option Url) (cs : List Char) : Except Fault Url :=
  let (beforeFragment, fragmentText) := cut '#' (significant cs)
  let (text, queryText) := cut '?' beforeFragment
  let fragment := fragmentText.map (percentEncode inFragment)
  match scheme? text, base with
  | some (scheme, rest), base => withScheme base scheme rest (queryText.map (queryEscape scheme)) fragment
  | none, none => .error .noBase
  | none, some base =>
    match base.path with
    | .plain _ =>
      if text.isEmpty && queryText.isNone && fragmentText.isSome then .ok { base with fragment := fragment }
      else .error .opaqueBase
    | .segments parts => relative base parts text (queryText.map (queryEscape base.scheme)) fragment

/-- Read a URL that stands alone. -/
def read (input : String) : Except Fault Url := readChars none input.toList

/-- Read a URL against this one. -/
def join (base : Url) (input : String) : Except Fault Url := readChars (some base) input.toList

end OutOfBand.Url
