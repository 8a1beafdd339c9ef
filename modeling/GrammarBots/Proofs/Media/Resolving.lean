import GrammarBots.Media.Resolution
import GrammarBots.Post.Timeline
import GrammarBots.Proofs.Media.Authoring
import GrammarBots.Proofs.Media.Pairing

/-!
# The calls that resolving a directive makes

Partners fetch, detect and upload; nothing is known of them, and how they answer may depend on all
that happened before.  `MediaPartners.resolve` lets a directive be resolved with them and writes
down every call with its answer.

`MediaPartners.resolve_stages` says which calls these are and what they come to.  It is read off
`Stages`, which lists the six ways in which resolving can end, with the calls made until then;
`stages_resolve` says that there are no others.

What a directive names is read after its braces are restored and its outer characters removed, in
this order.  For a directive of a text the order does not matter (`content_of_mem_scan`): the
character before its closing brace is no backslash, so that restoring the braces leaves the outer
ones alone.
-/

namespace GrammarBots

/-! ### Partners and calls -/

/-- A call for another party, with its answer. -/
inductive MediaCall where
  /-- A URL is fetched; a fetch may never be answered. -/
  | fetch (url : Text) (answer : Option Delayed)
  /-- A payload is uploaded. -/
  | upload (payload : Bytes) (mime : String) (answer : Except MediaError Handle)

namespace MediaCall

/-- The call is a fetch. -/
def isFetch : MediaCall → Bool
  | fetch _ _ => true
  | upload _ _ _ => false

/-- The call is an upload. -/
def isUpload : MediaCall → Bool
  | fetch _ _ => false
  | upload _ _ _ => true

end MediaCall

/-- Those with whom media are resolved.  `σ` is all that their answers may depend on. -/
structure MediaPartners (σ : Type) where
  /-- What a URL answers, if it ever does. -/
  fetch : Text → σ → Option Delayed × σ
  /-- The type of a payload. -/
  detect : Bytes → Except MediaError String
  /-- The answer to an upload. -/
  upload : Bytes → String → σ → Except MediaError Handle × σ

/-- The answer to a fetch, if it comes in time. -/
def answerWithin (timeout : Nat) (answer : Option Delayed) : Option (Except MediaError Bytes) :=
  answer.bind fun d => (d.within timeout).2

theorem answerWithin_eq_some {timeout : Nat} {answer : Option Delayed}
    {a : Except MediaError Bytes} :
    answerWithin timeout answer = some a
      ↔ ∃ d, answer = some d ∧ d.delay ≤ timeout ∧ d.answer = a := by
  simp only [answerWithin, Option.bind_eq_some_iff, Delayed.within]
  refine exists_congr fun d => and_congr_right fun _ => ?_
  split_ifs with h <;> simp [h]

theorem answerWithin_eq_none {timeout : Nat} {answer : Option Delayed} :
    answerWithin timeout answer = none ↔ ∀ d, answer = some d → timeout < d.delay := by
  simp only [answerWithin, Option.bind_eq_none_iff, Delayed.within]
  refine forall_congr' fun d => imp_congr_right fun _ => ?_
  split_ifs with h <;> simpa using h

/-- The URL was fetched, and the answer came in time. -/
def Answered (timeout : Nat) (calls : List MediaCall) (url : Text)
    (a : Except MediaError Bytes) : Prop :=
  ∃ d, MediaCall.fetch url (some d) ∈ calls ∧ d.delay ≤ timeout ∧ d.answer = a

/-- The URL was fetched, and no answer came in time. -/
def Unanswered (timeout : Nat) (calls : List MediaCall) (url : Text) : Prop :=
  ∃ answer, MediaCall.fetch url answer ∈ calls ∧ ∀ d, answer = some d → timeout < d.delay

namespace MediaPartners

variable {σ : Type}

/-- The services of the partners.  Every call is written down. -/
def services (p : MediaPartners σ) (timeout : Nat) :
    MediaServices (StateM (σ × List MediaCall)) where
  fetch url := fun (s, calls) =>
    let (answer, s) := p.fetch url s
    (answerWithin timeout answer, s, calls ++ [.fetch url answer])
  detect := p.detect
  upload payload mime := fun (s, calls) =>
    let (answer, s) := p.upload payload mime s
    (answer, s, calls ++ [.upload payload mime answer])

/-- The attachment of a directive, with all calls made for it, in order. -/
def resolve (p : MediaPartners σ) (timeout : Nat) (raw : Text) (s : σ) :
    Except MediaError (Option Handle) × List MediaCall :=
  let (result, _, calls) := GrammarBots.resolve (p.services timeout) timeout raw (s, [])
  (result, calls)

/-! ### The stages -/

/-- The ways in which resolving can end: the calls made until then, and the result. -/
inductive Stages (p : MediaPartners σ) (timeout : Nat) (raw : Text) (s : σ) :
    Except MediaError (Option Handle) × List MediaCall → Prop where
  /-- The directive asks for no media. -/
  | nothing (h : Resource.ofDirective? raw = none) : Stages p timeout raw s (.ok none, [])
  /-- The directive does not say where its media are. -/
  | withoutUrl {r : Resource} (h : Resource.ofDirective? raw = some r) (hurl : r.url = []) :
      Stages p timeout raw s (.error (.fetch [] "directive has no URL"), [])
  /-- No answer comes in time. -/
  | late {r : Resource} (h : Resource.ofDirective? raw = some r) (hurl : r.url ≠ [])
      (hanswer : answerWithin timeout (p.fetch r.url s).1 = none) :
      Stages p timeout raw s
        (.error (.fetch r.url ("timed out after " ++ Span.text timeout)),
          [.fetch r.url (p.fetch r.url s).1])
  /-- The fetch fails. -/
  | unfetched {r : Resource} {e : MediaError} (h : Resource.ofDirective? raw = some r)
      (hurl : r.url ≠ []) (hanswer : answerWithin timeout (p.fetch r.url s).1 = some (.error e)) :
      Stages p timeout raw s (.error e, [.fetch r.url (p.fetch r.url s).1])
  /-- The payload is not accepted. -/
  | undetected {r : Resource} {payload : Bytes} {e : MediaError}
      (h : Resource.ofDirective? raw = some r) (hurl : r.url ≠ [])
      (hanswer : answerWithin timeout (p.fetch r.url s).1 = some (.ok payload))
      (hmime : p.detect payload = .error e) :
      Stages p timeout raw s (.error e, [.fetch r.url (p.fetch r.url s).1])
  /-- The payload is uploaded. -/
  | uploaded {r : Resource} {payload : Bytes} {mime : String}
      {answer : Except MediaError Handle} (h : Resource.ofDirective? raw = some r)
      (hurl : r.url ≠ [])
      (hanswer : answerWithin timeout (p.fetch r.url s).1 = some (.ok payload))
      (hmime : p.detect payload = .ok mime)
      (hupload : (p.upload payload mime (p.fetch r.url s).2).1 = answer) :
      Stages p timeout raw s
        (answer.map some, [.fetch r.url (p.fetch r.url s).1, .upload payload mime answer])

/-- Resolving ends in one of these ways. -/
theorem stages_resolve (p : MediaPartners σ) (timeout : Nat) (raw : Text) (s : σ) :
    Stages p timeout raw s (p.resolve timeout raw s) := by
  rw [resolve, GrammarBots.resolve, Demand.ofDirective]
  cases h : Resource.ofDirective? raw with
  | none => exact .nothing h
  | some r =>
    by_cases hurl : r.url = []
    · simp only [if_pos hurl]
      exact .withoutUrl h hurl
    simp only [if_neg hurl]
    cases hanswer : answerWithin timeout (p.fetch r.url s).1 with
    | none =>
      simp only [bind, StateT.bind, services, hanswer, fetched]
      exact .late h hurl hanswer
    | some answer =>
      cases answer with
      | error e =>
        simp only [bind, StateT.bind, services, hanswer, fetched]
        exact .unfetched h hurl hanswer
      | ok payload =>
        cases hmime : p.detect payload with
        | error e =>
          simp only [bind, StateT.bind, services, hanswer, fetched, hmime]
          exact .undetected h hurl hanswer hmime
        | ok mime =>
          simp only [bind, StateT.bind, services, hanswer, fetched, hmime]
          exact .uploaded h hurl hanswer hmime rfl

/-- The stage that fails when those before it did not, and its error. -/
inductive FirstFailure (p : MediaPartners σ) (timeout : Nat) (raw : Text)
    (calls : List MediaCall) : MediaError → Prop where
  /-- There is no URL to fetch. -/
  | withoutUrl {r : Resource} (h : Resource.ofDirective? raw = some r) (hurl : r.url = []) :
      FirstFailure p timeout raw calls (.fetch [] "directive has no URL")
  /-- The fetch is not answered in time. -/
  | late {url : Text} (h : Unanswered timeout calls url) :
      FirstFailure p timeout raw calls (.fetch url ("timed out after " ++ Span.text timeout))
  /-- The fetch is answered by an error. -/
  | unfetched {url : Text} {e : MediaError} (h : Answered timeout calls url (.error e)) :
      FirstFailure p timeout raw calls e
  /-- The payload that was fetched is not accepted. -/
  | undetected {url : Text} {payload : Bytes} {e : MediaError}
      (h : Answered timeout calls url (.ok payload)) (hmime : p.detect payload = .error e) :
      FirstFailure p timeout raw calls e
  /-- The upload is answered by an error. -/
  | notUploaded {payload : Bytes} {mime : String} {e : MediaError}
      (h : MediaCall.upload payload mime (.error e) ∈ calls) : FirstFailure p timeout raw calls e

/-! ### What the stages come to -/

variable {p : MediaPartners σ} {timeout : Nat} {raw : Text} {s : σ}
  {out : Except MediaError (Option Handle) × List MediaCall}

theorem Stages.countP_le (h : Stages p timeout raw s out) :
    out.2.countP MediaCall.isFetch ≤ 1 ∧ out.2.countP MediaCall.isUpload ≤ 1 := by
  cases h <;> simp [List.countP_cons, MediaCall.isFetch, MediaCall.isUpload]

/-- What is fetched is the URL of the directive, if it has one. -/
theorem Stages.fetch_mem_iff (h : Stages p timeout raw s out) (url : Text)
    (answer : Option Delayed) :
    MediaCall.fetch url answer ∈ out.2 ↔
      (∃ r, Resource.ofDirective? raw = some r ∧ r.url = url) ∧ url ≠ [] ∧
        answer = (p.fetch url s).1 := by
  cases h with
  | nothing h => simp [h]
  | withoutUrl h hurl =>
    simp only [List.not_mem_nil, false_iff, h, Option.some.injEq, exists_eq_left', hurl]
    rintro ⟨rfl, hne, -⟩
    exact hne rfl
  | late h hurl | unfetched h hurl | undetected h hurl | uploaded h hurl =>
    simp only [List.mem_cons, MediaCall.fetch.injEq, reduceCtorEq, List.not_mem_nil, or_false, h,
      Option.some.injEq, exists_eq_left']
    constructor
    · rintro ⟨rfl, rfl⟩
      exact ⟨rfl, hurl, rfl⟩
    · rintro ⟨rfl, -, rfl⟩
      exact ⟨rfl, rfl⟩

theorem Stages.answered_iff (h : Stages p timeout raw s out) (url : Text)
    (a : Except MediaError Bytes) :
    Answered timeout out.2 url a ↔
      (∃ r, Resource.ofDirective? raw = some r ∧ r.url = url) ∧ url ≠ [] ∧
        answerWithin timeout (p.fetch url s).1 = some a := by
  simp only [Answered, h.fetch_mem_iff, answerWithin_eq_some]
  constructor
  · rintro ⟨d, ⟨hr, hurl, hd⟩, hin⟩
    exact ⟨hr, hurl, d, hd.symm, hin⟩
  · rintro ⟨hr, hurl, d, hd, hin⟩
    exact ⟨d, ⟨hr, hurl, hd.symm⟩, hin⟩

theorem Stages.unanswered_iff (h : Stages p timeout raw s out) (url : Text) :
    Unanswered timeout out.2 url ↔
      (∃ r, Resource.ofDirective? raw = some r ∧ r.url = url) ∧ url ≠ [] ∧
        answerWithin timeout (p.fetch url s).1 = none := by
  simp only [Unanswered, h.fetch_mem_iff, answerWithin_eq_none]
  constructor
  · rintro ⟨_, ⟨hr, hurl, rfl⟩, hlate⟩
    exact ⟨hr, hurl, hlate⟩
  · rintro ⟨hr, hurl, hlate⟩
    exact ⟨_, ⟨hr, hurl, rfl⟩, hlate⟩

/-- What is uploaded is the payload that was fetched in time, if it is accepted. -/
theorem Stages.upload_mem_iff (h : Stages p timeout raw s out) (payload : Bytes) (mime : String)
    (answer : Except MediaError Handle) :
    MediaCall.upload payload mime answer ∈ out.2 ↔
      ∃ url, Answered timeout out.2 url (.ok payload) ∧ p.detect payload = .ok mime ∧
        answer = (p.upload payload mime (p.fetch url s).2).1 := by
  simp only [h.answered_iff]
  cases h with
  | nothing h => simp [h]
  | withoutUrl h hurl => simp_all
  | late h hurl hanswer | unfetched h hurl hanswer => simp [h, hanswer]
  | undetected h hurl hanswer hmime =>
    simp only [List.mem_cons, reduceCtorEq, List.not_mem_nil, or_false, h, Option.some.injEq,
      exists_eq_left', false_iff]
    rintro ⟨url, ⟨rfl, -, hpayload⟩, hdetected, -⟩
    rw [hanswer] at hpayload
    cases hpayload
    exact absurd (hmime.symm.trans hdetected) (by simp)
  | uploaded h hurl hanswer hmime hupload =>
    simp only [List.mem_cons, MediaCall.upload.injEq, reduceCtorEq, List.not_mem_nil, or_false,
      false_or, h, Option.some.injEq, exists_eq_left']
    constructor
    · rintro ⟨rfl, rfl, rfl⟩
      exact ⟨_, ⟨rfl, hurl, hanswer⟩, hmime, hupload.symm⟩
    · rintro ⟨url, ⟨rfl, -, hpayload⟩, hdetected, rfl⟩
      rw [hanswer] at hpayload
      cases hpayload
      cases hmime.symm.trans hdetected
      exact ⟨rfl, rfl, hupload⟩

theorem Stages.ok_none_iff (h : Stages p timeout raw s out) :
    out.1 = .ok none ↔ Resource.ofDirective? raw = none := by
  cases h with
  | nothing h => simp [h]
  | withoutUrl h | late h | unfetched h | undetected h => simp [h]
  | @uploaded _ _ _ answer h => cases answer <;> simp [h, Except.map]

theorem Stages.ok_some_iff (h : Stages p timeout raw s out) (handle : Handle) :
    out.1 = .ok (some handle) ↔
      ∃ payload mime, MediaCall.upload payload mime (.ok handle) ∈ out.2 := by
  cases h with
  | nothing | withoutUrl | late | unfetched | undetected => simp
  | @uploaded _ _ _ answer h => cases answer <;> simp [Except.map, eq_comm]

theorem Stages.firstFailure (h : Stages p timeout raw s out) {e : MediaError}
    (he : out.1 = .error e) : FirstFailure p timeout raw out.2 e := by
  have hanswered := h.answered_iff
  have hunanswered := h.unanswered_iff
  cases h with
  | nothing => cases he
  | withoutUrl h hurl =>
    cases he
    exact .withoutUrl h hurl
  | late h hurl hanswer =>
    cases he
    exact .late ((hunanswered _).mpr ⟨⟨_, h, rfl⟩, hurl, hanswer⟩)
  | unfetched h hurl hanswer =>
    cases he
    exact .unfetched ((hanswered _ _).mpr ⟨⟨_, h, rfl⟩, hurl, hanswer⟩)
  | undetected h hurl hanswer hmime =>
    cases he
    exact .undetected ((hanswered _ _).mpr ⟨⟨_, h, rfl⟩, hurl, hanswer⟩) hmime
  | @uploaded _ payload mime answer =>
    cases answer with
    | ok => cases he
    | error =>
      cases he
      exact .notUploaded (List.mem_cons_of_mem _ (List.mem_singleton_self _))

theorem Stages.error_of_firstFailure (h : Stages p timeout raw s out) {e : MediaError}
    (hfail : FirstFailure p timeout raw out.2 e) : out.1 = .error e := by
  cases hfail with
  | withoutUrl hr hurl => cases h <;> simp_all
  | late hlate =>
    obtain ⟨⟨r, hr, rfl⟩, hurl, hnone⟩ := (h.unanswered_iff _).mp hlate
    cases h <;> simp_all
  | unfetched hanswered =>
    obtain ⟨⟨r, hr, rfl⟩, hurl, hsome⟩ := (h.answered_iff _ _).mp hanswered
    cases h <;> simp_all
  | undetected hanswered hmime =>
    obtain ⟨⟨r, hr, rfl⟩, hurl, hsome⟩ := (h.answered_iff _ _).mp hanswered
    cases h <;> simp_all
  | notUploaded hupload =>
    cases h with
    | nothing | withoutUrl | late | unfetched | undetected => simp at hupload
    | uploaded =>
      simp only [List.mem_cons, MediaCall.upload.injEq, reduceCtorEq, List.not_mem_nil, or_false,
        false_or] at hupload
      rw [← hupload.2.2]
      rfl

end MediaPartners

/-! ### What a directive of a text names -/

theorem trim_isTrimmed (t : Text) : ∀ c, (Text.trim t).head? = some c ∨
    (Text.trim t).getLast? = some c → Text.isBlank c = false := by
  have hfront {s : Text} {c : Char} (hc : (s.dropWhile Text.isBlank).head? = some c) :
      Text.isBlank c = false := by
    have := List.head?_dropWhile_not Text.isBlank s
    rw [hc] at this
    exact this
  rintro c (hc | hc)
  · have hprefix : Text.trim t <+: t.dropWhile Text.isBlank := by
      rw [← List.reverse_suffix, Text.trim, Text.trimBoth, Text.dropTrailing, List.reverse_reverse]
      exact List.dropWhile_suffix _
    obtain ⟨rest, hrest⟩ := hprefix
    exact hfront (by rw [← hrest, List.head?_append, hc, Option.some_or])
  · rw [Text.trim, Text.trimBoth, Text.dropTrailing, List.getLast?_reverse] at hc
    exact hfront hc

/-- A brace at the end of a text is kept, and no backslash before it is dropped if there is none. -/
theorem unescapeBraces_concat {t : Text} (ht : t.getLast? ≠ some '\\') (brace : Char)
    (hbrace : brace ≠ '\\') :
    unescapeBraces (t ++ [brace]) = unescapeBraces t ++ [brace] := by
  induction t with
  | nil => 
    rw [List.nil_append, unescapeBraces_cons, if_neg fun h => hbrace h.1]
    rfl
  | cons c t ih =>
    rw [List.cons_append, unescapeBraces_cons, unescapeBraces_cons]
    cases t with
    | nil =>
      have hc : c ≠ '\\' := by simpa using ht
      rw [if_neg fun h => hc h.1, if_neg fun h => hc h.1, ih (by simp)]
      rfl
    | cons b t =>
      rw [ih (by simpa using ht)]
      split_ifs <;> first | rfl | contradiction

/-- Between its braces a directive does not end in a backslash. -/
theorem exists_inner_of_mem_scan {t : Text} {d : Directive} (hd : d ∈ Directive.scan t) :
    ∃ inner, d.raw = '\x7b' :: (inner ++ ['\x7d']) ∧ inner.getLast? ≠ some '\\' := by
  obtain ⟨o, c, henc, rfl⟩ := Pairing.exists_encloses_of_mem_scan hd
  have hoc := henc.content
  have hc := henc.lt_length
  obtain ⟨n, rfl⟩ : ∃ n, c = o + 1 + (n + 1) := ⟨c - o - 2, by omega⟩
  have hopening : t.drop o = '\x7b' :: t.drop (o + 1) := by
    rw [List.drop_eq_getElem?_toList_append, henc.opening.1, Option.toList_some,
      List.singleton_append]
  have hclosing : (t.drop (o + 1))[n + 1]? = some '\x7d' := by
    rw [List.getElem?_drop]
    exact henc.closing.1
  refine ⟨(t.drop (o + 1)).take (n + 1), ?_, ?_⟩
  · rw [Pairing.directiveAt, hopening, show o + 1 + (n + 1) + 1 - o = n + 1 + 1 + 1 by omega,
      List.take_succ_cons, List.take_add_one, hclosing]
    rfl
  · have hbefore := henc.closing.2 (o + 1 + n) rfl
    have hn : o + 1 + n < t.length := by omega
    rw [List.getLast?_take, if_neg (Nat.succ_ne_zero n), Nat.add_sub_cancel, List.getElem?_drop]
    rw [List.getElem?_eq_getElem hn] at hbefore ⊢
    rwa [Option.some_or]

/-- For a directive of a text, braces may as well be restored between the outer ones only. -/
theorem content_of_mem_scan {t : Text} {d : Directive} (hd : d ∈ Directive.scan t) :
    Resource.content d.raw = Text.trim (unescapeBraces d.raw.tail.dropLast) := by
  obtain ⟨inner, hraw, hlast⟩ := exists_inner_of_mem_scan hd
  have hrestored : unescapeBraces d.raw = '\x7b' :: (unescapeBraces inner ++ ['\x7d']) := by
    rw [hraw, unescapeBraces_cons, if_neg fun h => absurd h.1 (by decide),
      unescapeBraces_concat hlast _ (by decide)]
  rw [Resource.content, hrestored, hraw, List.drop_one, List.tail_cons, List.tail_cons,
    List.dropLast_concat, List.dropLast_concat]

theorem isTrimmed_url {raw : Text} {r : Resource} (h : Resource.ofDirective? raw = some r) :
    ∀ c, r.url.head? = some c ∨ r.url.getLast? = some c → Text.isBlank c = false := by
  obtain ⟨kind, -, rfl⟩ := Option.map_eq_some_iff.mp h
  exact trim_isTrimmed _

/-! ### Resolving a directive -/

/-- **What resolving a directive does.**  It fetches at most once and uploads at most once.  It
fetches the URL that the directive names, unless this is empty, and no other; no white space stands
at either end of it.  It uploads what the fetch answered in time, with the type that was detected,
if one was, and nothing else.  It ends without an attachment exactly if the directive asks for no
media, with one exactly if the upload answers with it, and otherwise with the error of the first
stage that fails.  The text that says what a directive of a text asks for is all that stands between
its outer braces, restored and trimmed. -/
theorem MediaPartners.resolve_stages {σ : Type} (p : MediaPartners σ) (timeout : Nat) (raw : Text)
    (s : σ) :
    let out := p.resolve timeout raw s
    (out.2.countP MediaCall.isFetch ≤ 1 ∧ out.2.countP MediaCall.isUpload ≤ 1) ∧
    (∀ url answer, MediaCall.fetch url answer ∈ out.2 ↔
      (∃ r, Resource.ofDirective? raw = some r ∧ r.url = url) ∧ url ≠ [] ∧
        answer = (p.fetch url s).1) ∧
    (∀ url answer, MediaCall.fetch url answer ∈ out.2 →
      ∀ c, url.head? = some c ∨ url.getLast? = some c → Text.isBlank c = false) ∧
    (∀ payload mime answer, MediaCall.upload payload mime answer ∈ out.2 ↔
      ∃ url, Answered timeout out.2 url (.ok payload) ∧ p.detect payload = .ok mime ∧
        answer = (p.upload payload mime (p.fetch url s).2).1) ∧
    (out.1 = .ok none ↔ Resource.ofDirective? raw = none) ∧
    (∀ handle, out.1 = .ok (some handle) ↔
      ∃ payload mime, MediaCall.upload payload mime (.ok handle) ∈ out.2) ∧
    (∀ e, out.1 = .error e ↔ FirstFailure p timeout raw out.2 e) ∧
    ∀ t, ∀ d ∈ Directive.scan t,
      Resource.content d.raw = Text.trim (unescapeBraces d.raw.tail.dropLast) := by
  intro out
  have h : Stages p timeout raw s out := stages_resolve p timeout raw s
  refine ⟨h.countP_le, h.fetch_mem_iff, fun url answer hfetch => ?_, h.upload_mem_iff,
    h.ok_none_iff, h.ok_some_iff, fun e => ⟨h.firstFailure, h.error_of_firstFailure⟩,
    fun t d hd => content_of_mem_scan hd⟩
  obtain ⟨⟨r, hr, rfl⟩, -, -⟩ := (h.fetch_mem_iff url answer).mp hfetch
  exact isTrimmed_url hr

end GrammarBots
