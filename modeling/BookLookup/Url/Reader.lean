import BookLookup.Url.Host
import BookLookup.Url.Path

/-!
# Reading URLs

Controls and spaces around the text and tabs and line ends anywhere in it are
dropped. A scheme comes first, then for most schemes two slashes with the user,
the host and the port, then the path, the query after a question mark and the
fragment after a number sign. Under a scheme whose URLs all have a host, any
number of slashes or backslashes introduces it.
-/

namespace BookLookup
namespace Url

/-- Whether a character is dropped at the ends of the text. -/
def isOuterSpace (symbol : Char) : Bool :=
  symbol.toNat ≤ 0x20

/-- Whether a character is dropped wherever it stands. -/
def isDropped (symbol : Char) : Bool :=
  symbol == '\t' || symbol == '\n' || symbol == '\r'

/-- The characters of a text that count. -/
def cleaned (text : List Char) : List Char :=
  let begun := text.dropWhile isOuterSpace
  ((begun.reverse.dropWhile isOuterSpace).reverse).filter (!isDropped ·)

/-- Whether a character may stand in a scheme after its first letter. -/
def isSchemeChar (symbol : Char) : Bool :=
  symbol.isAlphanum || symbol == '+' || symbol == '-' || symbol == '.'

/-- The scheme in lower case and the text after its colon. -/
def scheme? (text : List Char) : Option (String × List Char) :=
  match Split.atFirst? ':' text with
  | some (first :: others, rest) =>
      if first.isAlpha && others.all isSchemeChar then
        some (String.ofList ((first :: others).map Char.toLower), rest)
      else none
  | _ => none

/-- The path, query and fragment of a text. -/
structure Tail where
  /-- The text up to the question mark or number sign. -/
  path : List Char
  /-- The text after the question mark. -/
  query : Option (List Char)
  /-- The text after the number sign. -/
  fragment : Option (List Char)

/-- A text cut into path, query and fragment. -/
def Tail.ofText (text : List Char) : Tail :=
  let (beforeFragment, fragment) :=
    match Split.atFirst? '#' text with
    | some (before, after) => (before, some after)
    | none => (text, none)
  match Split.atFirst? '?' beforeFragment with
  | some (path, query) => ⟨path, some query, fragment⟩
  | none => ⟨beforeFragment, none, fragment⟩

/-- A URL without user, whose path is encoded, from the parts of its text. -/
def assemble
    (scheme : String)
    (user : String × String)
    (host : Option Host)
    (port : Option Nat)
    (path : List Char)
    (tail : Tail) : Url where
  scheme := scheme
  username := user.1
  password := user.2
  host := host
  port := port
  path := String.ofList path
  query := tail.query.map fun query =>
    String.ofList (PercentEncoding.encodeWhere
      (keptInQuery (.ofScheme scheme)) query)
  fragment := tail.fragment.map fun fragment =>
    String.ofList (PercentEncoding.encodeWhere keptInFragment fragment)

/-- The user of a text and what follows the last commercial at before the
path, if there is one. -/
def userInfo?
    (kind : SchemeKind)
    (text : List Char) : Option (List Char × List Char) :=
  let authority := text.takeWhile (!kind.endsAuthority ·)
  let tail := text.dropWhile (!kind.endsAuthority ·)
  (Split.atFirst? '@' authority.reverse).map fun (host, user) =>
    (user.reverse, host.reverse ++ tail)

/-- The encoded user name and password of a user. -/
def encodedUser (user : List Char) : String × String :=
  let (name, password) := (Split.atFirst? ':' user).getD (user, [])
  (String.ofList (PercentEncoding.encodeWhere keptInUserInfo name),
    String.ofList (PercentEncoding.encodeWhere keptInUserInfo password))

/-- The host at the beginning of a text and what follows it. A colon ends the
host unless it stands in brackets. -/
def hostText
    (kind : SchemeKind)
    (inBrackets : Bool) : List Char -> List Char × List Char
  | [] => ([], [])
  | symbol :: rest =>
      if (symbol == ':' && !inBrackets) || kind.endsAuthority symbol then
        ([], symbol :: rest)
      else
        let inside :=
          if symbol == '[' then true else if symbol == ']' then false
          else inBrackets
        let (host, after) := hostText kind inside rest
        (symbol :: host, after)

/-- The port after its colon and what follows it. A port without digits is
none. -/
def port?
    (scheme : String)
    (text : List Char) : Except UrlFault (Option Nat × List Char) :=
  let digits := text.takeWhile Char.isDigit
  let rest := text.dropWhile Char.isDigit
  let value := (digits.foldl (fun value symbol =>
    10 * value + (symbol.toNat - 0x30)) 0)
  if 65535 < value then .error .invalidPort
  else if rest.head?.all ['/', '\\', '?', '#'].contains then
    if digits.isEmpty || defaultPort? scheme = some value then .ok (none, rest)
    else .ok (some value, rest)
  else .error .invalidPort

/-- The port that a colon introduces, if the text begins with one, and what
follows it. -/
def optionalPort
    (scheme : String) : List Char -> Except UrlFault (Option Nat × List Char)
  | ':' :: rest => port? scheme rest
  | rest => .ok (none, rest)

/-- A host that may be empty under some schemes, in front of a text. -/
def hostOfText
    (kind : SchemeKind)
    (host rest : List Char) : Except UrlFault (Option Host) :=
  match host, kind with
  | [], .other =>
      if rest.head? = some ':' then .error .emptyHost else .ok none
  | [], _ => .error .emptyHost
  | text, .other => (Host.ofOpaque text).map some
  | text, _ => (Host.ofSpecial text).map some

/-- Whether nothing is left of a text before the path. -/
def atAuthorityEnd (kind : SchemeKind) (text : List Char) : Bool :=
  (text.head?.map kind.endsAuthority).getD false

/-- A URL from the text after the slashes that introduce its host. -/
def readAuthority
    (scheme : String)
    (text : List Char) : Except UrlFault Url := do
  let kind := SchemeKind.ofScheme scheme
  let (user, afterUser) := (userInfo? kind text).getD ([], text)
  if user.isEmpty && (userInfo? kind text).isSome &&
      atAuthorityEnd kind afterUser then
    throw .emptyHost
  let (hostChars, afterHost) := hostText kind false afterUser
  let host <- hostOfText kind hostChars afterHost
  let (port, rest) <- optionalPort scheme afterHost
  let encoded := encodedUser user
  if host.isNone && encoded != ("", "") then throw .emptyHost
  let tail := Tail.ofText rest
  return assemble scheme encoded host port (hostedPath kind tail.path) tail

/-- Whether a text is the name of a drive. -/
def isDrive : List Char -> Bool
  | [letter, mark] => letter.isAlpha && (mark == ':' || mark == '|')
  | _ => false

/-- The host of a file. The local machine is no host, and a name of a drive is
the beginning of the path. -/
def fileHost (text : List Char) : Except UrlFault (Option Host × List Char) := do
  let host := text.takeWhile (!SchemeKind.file.endsAuthority ·)
  let rest := text.dropWhile (!SchemeKind.file.endsAuthority ·)
  if isDrive host then return (none, text)
  else if host.isEmpty then return (none, rest)
  else
    let read <- Host.ofSpecial host
    if read = .domain "localhost" then return (none, rest)
    else return (some read, rest)

/-- Whether a path begins on a drive. -/
def onDrive (path : List Char) : Bool :=
  isDrive ((dropDivider .file path).takeWhile (!SchemeKind.file.dividesPath ·))

/-- The URL of a file from the text after its scheme. A file on a drive has no
host. -/
def readFile (text : List Char) : Except UrlFault Url := do
  let (host, rest) <-
    match text with
    | first :: second :: after =>
        if SchemeKind.file.dividesPath first &&
            SchemeKind.file.dividesPath second then fileHost after
        else pure (none, text)
    | _ => pure (none, text)
  let tail := Tail.ofText rest
  let kept := if onDrive tail.path then none else host
  return assemble "file" ("", "") kept none
    (segmentedPath .file (dropDivider .file tail.path)) tail

/-- A URL of another scheme from the text after its scheme. -/
def readOther (scheme : String) : List Char -> Except UrlFault Url
  | '/' :: '/' :: rest => readAuthority scheme rest
  | text =>
      let tail := Tail.ofText text
      .ok (assemble scheme ("", "") none none (hostlessPath .other tail.path)
        tail)

/-- The URL that a text writes. -/
def read (text : String) : Except UrlFault Url :=
  match scheme? (cleaned text.toList) with
  | none => .error .relativeWithoutBase
  | some (scheme, rest) =>
      match SchemeKind.ofScheme scheme with
      | .file => readFile rest
      | .hosted =>
          readAuthority scheme (rest.dropWhile SchemeKind.hosted.dividesPath)
      | .other => readOther scheme rest

end Url
end BookLookup
