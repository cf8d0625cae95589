/-
  The path of a URL.

  * `UrlPath`: segments, or a text without any.
  * `Url.walk`: the segments that a walk along given ones leads to; it never leaves a drive.
  * `Url.apiFolder`: the folder `api` below a path.
-/
import LightningLottery.Text.Blank
import LightningLottery.Text.Split
import LightningLottery.Url.Percent
import LightningLottery.Url.Scheme

namespace LightningLottery

/-- What is asked for. -/
inductive UrlPath where
  /-- Segments, each of which a slash precedes. -/
  | rooted (segments : List String)
  /-- A text that no slash precedes. -/
  | rootless (text : String)
  deriving DecidableEq, Repr

/-- The written form of a path. -/
def UrlPath.text : UrlPath → String
  | .rooted segments => String.join (segments.map ("/" ++ ·))
  | .rootless text => text

/-- Whether a path would be taken for an authority if none stood before it. -/
def UrlPath.startsEmpty : UrlPath → Bool
  | .rooted ("" :: _ :: _) => true
  | _ => false

namespace Url

/-! ## Segments -/

/-- A segment that stands for the folder itself. -/
def isHere (segment : List Char) : Bool :=
  let s := segment.map Char.toLower
  s == ".".toList || s == "%2e".toList

/-- A segment that stands for the folder above. -/
def isAbove (segment : List Char) : Bool :=
  let s := segment.map Char.toLower
  s == "..".toList || s == "%2e.".toList || s == ".%2e".toList || s == "%2e%2e".toList

/-- A segment that stands for a drive: a letter, and a colon or a bar. -/
def isDrive : List Char → Bool
  | [letter, sign] => letter.isAlpha && (sign == ':' || sign == '|')
  | _ => false

/-- A segment in its written form. The first one of a file may be a drive, which has a colon. -/
def placed (kind : SchemeKind) (isFirst : Bool) (segment : List Char) : List Char :=
  if kind == .file && isFirst && isDrive segment then segment.take 1 ++ [':']
  else Percent.encode Percent.inPath segment

/-- Walks along segments; `walked` is where that led, nearest segment first. A walk that ends in a
    folder is closed by an empty segment. -/
def walk (kind : SchemeKind) (walked : List (List Char)) : List (List Char) → List (List Char)
  | [] => walked.reverse
  | segment :: rest =>
    let folder := fun (above : List (List Char)) => if rest.isEmpty then [] :: above else above
    if isAbove segment then
      walk kind (folder (if walked.head?.any isDrive then walked else walked.tail)) rest
    else if isHere segment then walk kind (folder walked) rest
    else walk kind (placed kind walked.isEmpty segment :: walked) rest

/-- Segments without the empty ones in front; one segment stays. -/
def dropLeadingEmpty : List String → List String
  | "" :: segment :: segments => dropLeadingEmpty (segment :: segments)
  | segments => segments

/-- Segments without the empty ones at the end. -/
def dropTrailingEmpty (segments : List String) : List String :=
  (segments.reverse.dropWhile fun s => s.isEmpty).reverse

/-! ## The folder of the API -/

/-- The first segment of the path of a file in its written form if it is a drive. -/
def withDrive : List String → List String
  | first :: segments =>
    (if isDrive first.toList then String.ofList (placed .file true first.toList) else first) ::
      segments
  | [] => []

/-- The folder of the API below a path. -/
def apiFolder (kind : SchemeKind) : UrlPath → UrlPath
  | .rooted segments =>
    let folder := dropTrailingEmpty segments ++ ["api", ""]
    .rooted (if kind == .file then withDrive folder else folder)
  | .rootless text =>
    let path := dropWhileRight (· == '/') text.toList ++ "/api/".toList
    match path with
    | '/' :: rest => .rootless ("%2F" ++ String.ofList rest)
    | path => .rootless (String.ofList path)

end Url
end LightningLottery
