import GrammarBots.Post.Timeline

/-!
# A stage to rehearse on

A rehearsal needs no network: the stage says what each URL answers and how long that takes, which
uploads are accepted under which handles, and whether posts are taken.  Unless told otherwise, a URL
answers with a picture that carries the URL, and an upload of such a picture is named after it, so
every attachment shows which directive it came from.  The log of a stage keeps what was asked of it.
-/

namespace GrammarBots.Rehearsal

/-- How a picture begins. -/
def pictureMark : Bytes := [0x89, 0x50, 0x4E, 0x47, 0x0D, 0x0A, 0x1A, 0x0A]

/-- A picture that carries a text. -/
def picture (t : Text) : Bytes := pictureMark ++ Utf8.encode t.str

/-- The text that a picture carries. -/
def carried? (payload : Bytes) : Option Text :=
  if payload.take pictureMark.length = pictureMark then
    Utf8.decode? (payload.drop pictureMark.length)
  else none

/-- What a stage answers. -/
structure Stage where
  /-- What URLs answer instead of a picture. -/
  bodies : List (Text × Bytes) := []
  /-- The URLs that cannot be found. -/
  missing : List Text := []
  /-- How long URLs take, in milliseconds. -/
  delays : List (Text × Nat) := []
  /-- The handles of pictures that are not named after what they carry. -/
  handles : List (Text × Handle) := []
  /-- What rejected pictures carry. -/
  rejected : List Text := []
  /-- The type that every payload is taken for, if types are not detected. -/
  mime : Option String := none
  /-- Why no post is taken, if none is. -/
  failure : Option PublishError := none

/-- What was asked of a stage, first thing first. -/
structure Log where
  /-- The URLs that were fetched. -/
  fetches : List Text := []
  /-- The types of the uploads. -/
  uploads : List String := []
  /-- The posts that were taken. -/
  posts : List Post := []

namespace Stage

/-- What a URL answers, and when. -/
def fetch (s : Stage) (url : Text) : Delayed where
  delay := (s.delays.lookup url).getD 0
  answer :=
    if s.missing.contains url then .error (.fetch url "HTTP 404 Not Found")
    else .ok ((s.bodies.lookup url).getD (picture url))

/-- The type of a payload. -/
def detect (s : Stage) (payload : Bytes) : Except MediaError String :=
  match s.mime with
  | some mime => .ok mime
  | none => detectMedia payload

/-- The answer to an upload. -/
def upload (s : Stage) (payload : Bytes) (mime : String) (log : Log) :
    Except MediaError Handle × Log :=
  let log := { log with uploads := log.uploads ++ [mime] }
  match carried? payload with
  | none => (.ok ("upload-" ++ toString log.uploads.length), log)
  | some name =>
    if s.rejected.contains name then (.error (.upload "HTTP 400: media rejected"), log)
    else (.ok ((s.handles.lookup name).getD name.str), log)

/-- The answer to a post. -/
def publish (s : Stage) (post : Post) (log : Log) : Except PublishError Receipt × Log :=
  match s.failure with
  | some e => (.error e, log)
  | none =>
    let log := { log with posts := log.posts ++ [post] }
    (.ok ⟨"post-" ++ toString log.posts.length, post.text.str⟩, log)

/-- The stage as a world. -/
def world (s : Stage) : World Log where
  fetch _ := s.fetch
  noteFetch url log := { log with fetches := log.fetches ++ [url] }
  detect := s.detect
  upload := s.upload

/-- What media are resolved with on the stage, one after the other. -/
def services (s : Stage) (timeout : Nat) : MediaServices (StateM Log) where
  fetch url := do
    modify (s.world.noteFetch url)
    return ((s.fetch url).within timeout).2
  detect := s.detect
  upload payload mime := modifyGet (s.upload payload mime)

end Stage

end GrammarBots.Rehearsal
