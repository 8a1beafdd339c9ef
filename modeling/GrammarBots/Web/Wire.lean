import GrammarBots.Text.Blank
import GrammarBots.Text.Casing
import GrammarBots.Web.Host
import GrammarBots.Web.Message

/-!
# Messages on the wire

Requests and responses as octets: a first line, a line for each header, an empty line and the
content.  A connection carries one request and one response, so a response is complete when the
connection ends; a content that is announced with its length or sent in chunks must be all there.
Each cut at a line is shorter than what it was cut from (`length_lt_of_cutLine?`), which is why
reading ends.
-/

namespace GrammarBots.Wire

/-- The end of a line. -/
def lineEnd : Text := ['\r', '\n']

/-- The octets of a text. -/
def octets (t : Text) : Bytes := Utf8.encode t.str

/-- The octets of lines, each with its end. -/
def linesOf (texts : List Text) : Bytes := octets (texts.flatMap (· ++ lineEnd))

/-- A header as a line. -/
def headerLine (name : String) (value : Text) : Text := name.toList ++ ": ".toList ++ value

/-! ### Requests -/

/-- A form with one file.  The boundary must not occur in the content of the file. -/
def formBody (boundary : Text) (f : FormFile) : Bytes :=
  let disposition := "form-data; name=\"" ++ f.field ++ "\"; filename=\"" ++ f.fileName ++ "\""
  linesOf ["--".toList ++ boundary, headerLine "Content-Disposition" disposition.toList,
      headerLine "Content-Type" f.mime.toList, []] ++
    f.content ++ linesOf [[], "--".toList ++ boundary ++ "--".toList]

/-- The MIME type and the octets of a content, if there is one. -/
def payload? (boundary : Text) : Payload → Option (Text × Bytes)
  | .nothing => none
  | .json document => some ("application/json".toList, octets document)
  | .form file =>
    some ("multipart/form-data; boundary=".toList ++ boundary, formBody boundary file)

/-- A request as octets.  The boundary must not occur in a file that the request holds. -/
def encodeRequest (boundary : Text) (r : Request) : Bytes :=
  let payload := payload? boundary r.payload
  let length (b : Bytes) : Text := (toString b.length).toList
  linesOf (
    [r.method.text.toList ++ ' ' :: r.url.target ++ " HTTP/1.1".toList,
      headerLine "Host" r.url.place, headerLine "User-Agent" userAgent.toList,
      headerLine "Accept" "*/*".toList, headerLine "Connection" "close".toList] ++
    (r.authorizations.map (headerLine "Authorization")) ++
    (payload.toList.flatMap fun (mime, body) =>
      [headerLine "Content-Type" mime, headerLine "Content-Length" (length body)]) ++ [[]]) ++
  (payload.map (·.2)).getD []

/-! ### Responses -/

/-- The octets before and after the first end of a line. -/
def cutLine? : Bytes → Option (Bytes × Bytes)
  | 13 :: 10 :: rest => some ([], rest)
  | b :: rest => (cutLine? rest).map fun (line, after) => (b :: line, after)
  | [] => none

theorem length_lt_of_cutLine? {bytes line after : Bytes} (h : cutLine? bytes = some (line, after)) :
    after.length < bytes.length := by
  fun_induction cutLine? bytes generalizing line with
  | case1 rest =>
    simp only [Option.some.injEq, Prod.mk.injEq] at h
    simp only [List.length_cons, ← h.2]
    omega
  | case2 b rest _ ih =>
    obtain ⟨⟨l, a⟩, hl, heq⟩ := Option.map_eq_some_iff.1 h
    simp only [Prod.mk.injEq] at heq
    have := ih (hl.trans (by rw [heq.2]))
    simp only [List.length_cons]
    omega
  | case3 => simp at h

/-- The headers of a message, their names in lower case, and what follows the empty line. -/
def headers? (bytes : Bytes) : Option (List (Text × Text) × Bytes) :=
  match _h : cutLine? bytes with
  | none => none
  | some ([], after) => some ([], after)
  | some (line, after) => do
    let (name, value) ← Text.splitOnce? ':' (Utf8.decodeLenient line)
    let (others, rest) ← headers? after
    return ((Text.lower name, Text.trim value) :: others, rest)
  termination_by bytes.length
  decreasing_by exact length_lt_of_cutLine? _h

/-- The number that the first line of a chunk writes; what follows a semicolon does not count. -/
def chunkSize? (line : Bytes) : Option Nat :=
  let digits := Text.trim ((Utf8.decodeLenient line).takeWhile (· != ';'))
  if digits.isEmpty then none else Host.numberOf? 16 digits

/-- The content that chunks carry; an empty chunk ends it. -/
def joinChunks? (bytes : Bytes) : Option Bytes :=
  match _h : cutLine? bytes with
  | none => none
  | some (line, after) => do
    -- The content of a chunk has a line end of its own.
    let size ← chunkSize? line
    if size = 0 then return []
    else if after.length < size + 2 then none
    else return after.take size ++ (← joinChunks? (after.drop (size + 2)))
  termination_by bytes.length
  decreasing_by
    have := length_lt_of_cutLine? _h
    simp only [List.length_drop]
    omega

/-- The status code in the first line of a response. -/
def statusOf? (line : Bytes) : Option Nat :=
  match Text.splitOn ' ' (Utf8.decodeLenient line) with
  | version :: code :: _ =>
    if Text.startsWith "HTTP/1.".toList version ∧ code.length = 3 then Host.numberOf? 10 code
    else none
  | _ => none

/-- The content of a response, given its headers and all that follows them. -/
def content? (headers : List (Text × Text)) (rest : Bytes) : Option Bytes :=
  if headers.lookup "transfer-encoding".toList = some "chunked".toList then joinChunks? rest
  else match headers.lookup "content-length".toList with
    | none => some rest
    | some digits => do
      let length ← Host.numberOf? 10 digits
      if rest.length < length then none else return rest.take length

/-- The response that octets write, if they write a complete one. -/
def decodeResponse? (bytes : Bytes) : Option Response := do
  let (line, rest) ← cutLine? bytes
  let (headers, rest) ← headers? rest
  return ⟨← statusOf? line, ← content? headers rest⟩

end GrammarBots.Wire
