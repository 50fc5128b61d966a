import StaticAccessors.Disk.Access
import StaticAccessors.Host
import StaticAccessors.Text.LetterCase
import StaticAccessors.Url.Basic

/-!
# Sources of manifests

A manifest is read from a file or fetched from an address, never both. Every step is logged; what goes
wrong is told in the words of the source.

## Contents
- `Response`: what asking for an address led to.
- `Source.fromFile`, `Source.fromUrl`.
- `Source.load`: from one of the two.
-/

namespace StaticAccessors

/-- What asking for an address led to. -/
inductive Response
  | answered (status : Int) (body : String)
  | timedOut
  | unreachable (reason : String)
deriving Repr, DecidableEq

/-- A document with the name of its source, or a fault, and the records on the way. -/
abbrev Loading := Except Fault (String × Value) × List Record

namespace Source

/-- The ending that files of manifests should have. -/
def fileSuffix : String := ".json"

/-- A fault that is logged in its own words. -/
def refused (cause : SourceError) (records : List Record) : Loading :=
  (.error (.source cause), records ++ [⟨.error, cause.message⟩])

/-- A document that was loaded. -/
def loaded (source : String) (document : Value) (records : List Record) : Loading :=
  (.ok (source, document), records ++ [⟨.info, "Loaded manifest from " ++ source⟩])

/-! ## Files -/

/-- The record about a name with an unusual ending. -/
def suffixRecords (path : FilePath) : List Record :=
  if Text.lower path.suffix ≠ fileSuffix then
    [⟨.warning, "Manifest does not have .json extension: " ++ path.text⟩]
  else []

/-- Reads the document in a file. -/
def parseFile (path : FilePath) (text : String) (records : List Record) : Loading :=
  match Json.read text with
  | .ok document => loaded path.text document records
  | .error refusal =>
    match Fault.ofExcess? refusal with
    | some fault => (.error fault, records)
    | none => refused (.malformed path refusal) records

/-- Loads the document in a file. -/
def fromFile (d : Disk) (here : Location) (path : FilePath) : Loading :=
  let attempted : List Record :=
    [⟨.debug, "Attempting to load manifest from file: " ++ path.text⟩]
  match d.pathExists here path with
  | .error fault => (.error fault, attempted)
  | .ok false =>
    let fault := Fault.manifestMissing path
    (.error fault, attempted ++ [⟨.error, fault.message⟩])
  | .ok true =>
    let records := attempted ++ suffixRecords path
    match d.readText here path with
    | .ok text => parseFile path text records
    | .error (.disk cause) => refused (.unreadable path cause) records
    | .error fault => (.error fault, records)

/-! ## Addresses -/

/-- The statuses that report an error. -/
def isErrorStatus (status : Int) : Bool := 400 ≤ status && status < 600

/-- Reads the document in the body of an answer. -/
def parseBody (url body : String) (records : List Record) : Loading :=
  match Json.read body with
  | .ok document => loaded url document records
  | .error refusal =>
    match Fault.ofExcess? refusal with
    | some fault => (.error fault, records)
    | none => refused (.request url refusal.message) records

/-- Loads the document that a response holds. -/
def fromResponse (url : String) (response : Response) (records : List Record) : Loading :=
  match response with
  | .timedOut => refused (.timeout url) records
  | .unreachable reason => refused (.request url reason) records
  | .answered status body =>
    if isErrorStatus status then refused (.status status url) records
    else parseBody url body records

/-- Loads the document at an address, which has to have a scheme and an authority. -/
def fromUrl (url : String) (response : Response) : Loading :=
  let attempted : List Record := [⟨.debug, "Attempting to load manifest from URL: " ++ url⟩]
  match Url.parse? url with
  | none => (.error .badValue, attempted)
  | some parts =>
    if parts.scheme = "" || parts.authority = "" then
      (.error (.source (.invalidUrl url)), attempted ++ [⟨.error, "Invalid URL format: " ++ url⟩])
    else fromResponse url response attempted

/-- Loads a document from the one of two sources that is given; false values give none. -/
def load (d : Disk) (here : Location) (file url : Value) (response : Response) : Loading :=
  match file.truthy, url.truthy with
  | false, false => (.error (.source .noSource), [])
  | true, true => (.error (.source .twoSources), [])
  | true, false =>
    match FilePath.ofValue? file with
    | some path => fromFile d here path
    | none => (.error .wrongType, [])
  | false, true =>
    match url with
    | .text s => fromUrl s response
    | _ => (.error .noSuchAttribute, [])

end Source

end StaticAccessors
