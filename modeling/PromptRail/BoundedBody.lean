import PromptRail.Library.Buffer
import PromptRail.Library.UrlEncoded

/-!
# Bounded request bodies (`app/lib/boundedJsonBody.js`)

A route reads the JSON body of a request from its stream, chunk by chunk, and gives it up as soon as it is longer than the route
allows. A stream is the list of what its reads give until it is done, and the parser of JSON is given. The bytes that are held on the
way are kept beside what comes out.
-/

namespace PromptRail

namespace BoundedBody

open PyText (Text)
open UrlEncoded (Bytes)

/-! ## Errors -/

structure BoundedJsonBodyError where
  code : Text
  message : Text
  status : Nat
deriving DecidableEq

def invalidBody : BoundedJsonBodyError where
  code := "invalid_json_body".toList
  message := "Invalid JSON request body.".toList
  status := 400

def bodyTooLarge : BoundedJsonBodyError where
  code := "request_body_too_large".toList
  message := "Request body is too large.".toList
  status := 413

/-- What is thrown: the errors of the language besides the two of the module. -/
inductive Thrown where
  | typeError (message : Text)
  | rangeError
  | bounded (error : BoundedJsonBodyError)
deriving DecidableEq

structure Response where
  code : Text
  message : Text
  status : Nat
  cacheControl : Text
deriving DecidableEq

def boundedJsonErrorResponse (error : Thrown) : Response :=
  let boundedError := match error with
    | .bounded error => error
    | _ => invalidBody
  { code := boundedError.code
    message := boundedError.message
    status := boundedError.status
    cacheControl := "no-store".toList }

/-! ## Requests -/

/-- What `reader.read()` comes to before the stream is done. -/
inductive Read where
  | chunk (value : Bytes)
  | other
  | failed

structure Request where
  contentLength : Option Text
  body : Option (List Read)

/-- The chunks of a stream, up to the first read that gives none. -/
def chunksOf : List Read → List Bytes
  | .chunk value :: reads => value :: chunksOf reads
  | _ => []

def maxSafeInteger : Int := 2 ^ 53 - 1

/-- `Number.isSafeInteger`, of an integer. -/
def isSafeInteger (n : Int) : Bool := -maxSafeInteger ≤ n && n ≤ maxSafeInteger

/-- The length that a header of digits declares. `Number` rounds it only where it is greater than every safe integer. -/
def declaredLength (header : Option Text) : Option Nat :=
  match header with
  | some (c :: value) =>
    if (c :: value).all Char.isDigit then some ((c :: value).foldl (fun n c => 10 * n + (c.toNat - 48)) 0) else none
  | _ => none

/-! ## Reading -/

/-- The bytes that are held: the chunks kept and the one just read, or the chunks and the buffer they are copied into. -/
inductive Held where
  | reading (chunks : List Bytes) (value : Bytes)
  | copying (chunks : List Bytes) (bytes : Bytes)
deriving DecidableEq

def Held.size : Held → Nat
  | .reading chunks value => chunks.flatten.length + value.length
  | .copying chunks bytes => chunks.flatten.length + bytes.length

/-- A part of the reading: what it comes to, and what was held on the way. -/
structure Reading (α : Type) where
  result : Except Thrown α
  held : List Held

def Reading.andThen {α β : Type} (first : Reading α) (rest : α → Reading β) : Reading β :=
  match first.result with
  | .error e => ⟨.error e, first.held⟩
  | .ok a => ⟨(rest a).result, first.held ++ (rest a).held⟩

/-- The loop over the stream. A body that is too long is cancelled, and whether that fails makes no difference. -/
def readChunks (maxBytes : Int) (chunks : List Bytes) (totalBytes : Nat) : List Read → Reading (List Bytes × Nat)
  | [] => ⟨.ok (chunks, totalBytes), []⟩
  | .chunk value :: reads =>
    if maxBytes < (totalBytes + value.length : Nat) then ⟨.error (.bounded bodyTooLarge), [.reading chunks value]⟩
    else
      let rest := readChunks maxBytes (chunks ++ [value]) (totalBytes + value.length) reads
      ⟨rest.result, .reading chunks value :: rest.held⟩
  | .other :: _ => ⟨.error (.bounded invalidBody), []⟩
  | .failed :: _ => ⟨.error (.bounded invalidBody), []⟩

/-- The loop that copies the chunks into the one buffer. -/
def copyChunks (chunks : List Bytes) (bytes : Bytes) (offset : Nat) : List Bytes → Reading Bytes
  | [] => ⟨.ok bytes, [.copying chunks bytes]⟩
  | chunk :: rest =>
    match Buffer.set bytes chunk offset with
    | none => ⟨.error .rangeError, [.copying chunks bytes]⟩
    | some after =>
      let copied := copyChunks chunks after (offset + chunk.length) rest
      ⟨copied.result, .copying chunks bytes :: copied.held⟩

/-- `new TextDecoder("utf-8", { fatal: true }).decode`, which leaves out a byte order mark. -/
def fatalDecode (bytes : Bytes) : Option Text :=
  match bytes with
  | 0xEF :: 0xBB :: 0xBF :: rest => PyText.decodeUtf8 rest
  | _ => PyText.decodeUtf8 bytes

section

variable {Value : Type} (parse : Text → Option Value)

/-- The bytes of a body, decoded and parsed. -/
def parseBody (bytes : Bytes) : Except Thrown Value :=
  match (fatalDecode bytes).bind parse with
  | some value => .ok value
  | none => .error (.bounded invalidBody)

def readBoundedJson (request : Request) (maxBytes : Int) : Reading Value :=
  if !isSafeInteger maxBytes || maxBytes ≤ 0 then
    ⟨.error (.typeError "maxBytes must be a positive safe integer.".toList), []⟩
  else if (declaredLength request.contentLength).any (fun n => maxBytes < (n : Int)) then
    ⟨.error (.bounded bodyTooLarge), []⟩
  else
    match request.body with
    | none => ⟨.error (.bounded invalidBody), []⟩
    | some reads =>
      (readChunks maxBytes [] 0 reads).andThen fun (chunks, totalBytes) =>
        (copyChunks chunks (List.replicate totalBytes 0) 0 chunks).andThen fun bytes => ⟨parseBody parse bytes, []⟩

end

section

variable {α β : Type} {first : Reading α} {rest : α → Reading β}

theorem Reading.andThen_error {e : Thrown} (h : first.result = .error e) : (first.andThen rest).result = .error e := by
  rw [Reading.andThen, h]

theorem Reading.andThen_ok {a : α} (h : first.result = .ok a) : (first.andThen rest).result = (rest a).result := by
  rw [Reading.andThen, h]

theorem Reading.mem_andThen {held : Held} :
    held ∈ (first.andThen rest).held ↔ held ∈ first.held ∨ ∃ a, first.result = .ok a ∧ held ∈ (rest a).held := by
  rw [Reading.andThen]
  cases first.result with
  | error e => simp
  | ok a => simp

end

/-! ## The loop over the stream -/

@[simp] theorem chunksOf_map (chunks : List Bytes) : chunksOf (chunks.map .chunk) = chunks := by
  induction chunks with
  | nil => rfl
  | cons value chunks ih => rw [List.map_cons, chunksOf, ih]

/-- A stream within the limit is read to its end. -/
theorem readChunks_fits {maxBytes : Int} (chunks : List Bytes) {kept : List Bytes} {totalBytes : Nat}
    (h : (totalBytes + chunks.flatten.length : Nat) ≤ maxBytes) :
    (readChunks maxBytes kept totalBytes (chunks.map .chunk)).result =
      .ok (kept ++ chunks, totalBytes + chunks.flatten.length) := by
  induction chunks generalizing kept totalBytes with
  | nil => simp [readChunks]
  | cons value chunks ih =>
    rw [List.flatten_cons, List.length_append] at h ⊢
    rw [List.map_cons, readChunks, if_neg (by omega), ih (by omega)]
    simp [Nat.add_assoc]

/-- A stream over the limit is given up, wherever its chunks are cut. -/
theorem readChunks_long {maxBytes : Int} (chunks : List Bytes) {kept : List Bytes} {totalBytes : Nat}
    (hkept : (totalBytes : Int) ≤ maxBytes) (h : maxBytes < (totalBytes + chunks.flatten.length : Nat)) :
    (readChunks maxBytes kept totalBytes (chunks.map .chunk)).result = .error (.bounded bodyTooLarge) := by
  induction chunks generalizing kept totalBytes with
  | nil => exact absurd h (by simpa using hkept)
  | cons value chunks ih =>
    rw [List.flatten_cons, List.length_append] at h
    rw [List.map_cons, readChunks]
    split
    · rfl
    · rename_i hfits
      exact ih (Int.not_lt.1 hfits) (by omega)

/-- Whatever the reads give, the chunks that are kept are within the limit, and the one read after them is the last one asked for. -/
theorem readChunks_held {maxBytes : Int} {reads : List Read} {kept : List Bytes} {totalBytes : Nat}
    (htotal : kept.flatten.length = totalBytes) (hkept : (totalBytes : Int) ≤ maxBytes) {held : Held}
    (h : held ∈ (readChunks maxBytes kept totalBytes reads).held) :
    ∃ chunks value, held = .reading chunks value ∧ chunks ++ [value] <+: kept ++ chunksOf reads ∧
      (chunks.flatten.length : Int) ≤ maxBytes := by
  induction reads generalizing kept totalBytes with
  | nil => cases h
  | cons read reads ih =>
    cases read with
    | other => cases h
    | failed => cases h
    | chunk value =>
      have hnow : kept ++ [value] <+: kept ++ chunksOf (.chunk value :: reads) :=
        List.prefix_append_right_inj kept |>.2 ⟨chunksOf reads, rfl⟩
      have hfirst : (kept.flatten.length : Int) ≤ maxBytes := htotal ▸ hkept
      rw [readChunks] at h
      split at h
      · obtain rfl := List.mem_singleton.1 h
        exact ⟨kept, value, rfl, hnow, hfirst⟩
      · rename_i hfits
        rcases List.mem_cons.1 h with rfl | hlater
        · exact ⟨kept, value, rfl, hnow, hfirst⟩
        · have htotal' : (kept ++ [value]).flatten.length = totalBytes + value.length := by simp [htotal]
          obtain ⟨chunks, value', heq, hbefore, hsize⟩ := ih htotal' (Int.not_lt.1 hfits) hlater
          refine ⟨chunks, value', heq, ?_, hsize⟩
          rwa [List.append_assoc, List.singleton_append] at hbefore

/-! ## The copy -/

/-- The buffer of the whole length takes every chunk, and what it holds in the end are the chunks joined. -/
theorem copyChunks_result (chunks rest : List Bytes) (written room : Bytes) (h : room.length = rest.flatten.length) :
    (copyChunks chunks (written ++ room) written.length rest).result = .ok (written ++ rest.flatten) := by
  induction rest generalizing written room with
  | nil =>
    rw [List.flatten_nil, List.length_nil] at h
    rw [copyChunks, List.length_eq_zero_iff.1 h, List.flatten_nil]
  | cons chunk rest ih =>
    rw [List.flatten_cons, List.length_append] at h
    rw [copyChunks, Buffer.set_append written room chunk (by omega), ← List.length_append]
    have hroom : (room.drop chunk.length).length = rest.flatten.length := by
      rw [List.length_drop]
      omega
    rw [ih (written ++ chunk) (room.drop chunk.length) hroom, List.flatten_cons, List.append_assoc]

/-- While the chunks are copied, they are held beside the buffer, whose length stays. -/
theorem copyChunks_held (chunks rest : List Bytes) (bytes : Bytes) (offset : Nat) {held : Held}
    (h : held ∈ (copyChunks chunks bytes offset rest).held) :
    ∃ buffer, held = .copying chunks buffer ∧ buffer.length = bytes.length := by
  induction rest generalizing bytes offset with
  | nil => exact ⟨bytes, List.mem_singleton.1 h, rfl⟩
  | cons chunk rest ih =>
    rw [copyChunks] at h
    split at h
    · exact ⟨bytes, List.mem_singleton.1 h, rfl⟩
    · rename_i after hset
      rcases List.mem_cons.1 h with rfl | hlater
      · exact ⟨bytes, rfl, rfl⟩
      · obtain ⟨buffer, heq, hlength⟩ := ih after _ hlater
        exact ⟨buffer, heq, hlength.trans (Buffer.length_of_set hset)⟩

/-! ## The body -/

section

variable {Value : Type} (parse : Text → Option Value)

/-- A request that gets as far as its stream: the limit is a safe integer, and the length declared does not exceed it. -/
theorem readBoundedJson_stream {header : Option Text} {maxBytes : Int} (reads : List Read) (hpositive : 0 < maxBytes)
    (hsafe : maxBytes ≤ maxSafeInteger) (hheader : ∀ n, declaredLength header = some n → (n : Int) ≤ maxBytes) :
    readBoundedJson parse ⟨header, some reads⟩ maxBytes =
      (readChunks maxBytes [] 0 reads).andThen fun (chunks, totalBytes) =>
        (copyChunks chunks (List.replicate totalBytes 0) 0 chunks).andThen fun bytes => ⟨parseBody parse bytes, []⟩ := by
  have hinteger : isSafeInteger maxBytes = true := by
    simp only [isSafeInteger, Bool.and_eq_true, decide_eq_true_eq]
    exact ⟨by simp only [maxSafeInteger]; omega, hsafe⟩
  have hlimit : (!isSafeInteger maxBytes || decide (maxBytes ≤ 0)) = false := by
    rw [hinteger, decide_eq_false (by omega)]
    rfl
  have hdeclared : (declaredLength header).any (fun n => decide (maxBytes < (n : Int))) = false := by
    cases hlength : declaredLength header with
    | none => rfl
    | some n => exact decide_eq_false (Int.not_lt.2 (hheader n hlength))
  rw [readBoundedJson, hlimit, hdeclared]
  rfl

theorem parseBody_ne_tooLarge (bytes : Bytes) : parseBody parse bytes ≠ .error (.bounded bodyTooLarge) := by
  unfold parseBody
  split
  · exact nofun
  · intro h
    have hsame : invalidBody = bodyTooLarge := Thrown.bounded.inj (Except.error.inj h)
    exact absurd hsame (by decide)

/-- What comes of the chunks of a stream is what comes of its bytes. -/
theorem readBoundedJson_result {header : Option Text} {maxBytes : Int} (chunks : List Bytes) (hpositive : 0 < maxBytes)
    (hsafe : maxBytes ≤ maxSafeInteger) (hheader : ∀ n, declaredLength header = some n → (n : Int) ≤ maxBytes) :
    (readBoundedJson parse ⟨header, some (chunks.map .chunk)⟩ maxBytes).result =
      if maxBytes < chunks.flatten.length then .error (.bounded bodyTooLarge) else parseBody parse chunks.flatten := by
  rw [readBoundedJson_stream parse _ hpositive hsafe hheader]
  split
  · rename_i hlong
    exact Reading.andThen_error (readChunks_long chunks (Int.le_of_lt hpositive) (by rwa [Nat.zero_add]))
  · rename_i hfits
    have hread : (readChunks maxBytes [] 0 (chunks.map .chunk)).result = .ok ([] ++ chunks, 0 + chunks.flatten.length) :=
      readChunks_fits chunks (by omega)
    have hroom : (List.replicate (0 + chunks.flatten.length) (0 : UInt8)).length = chunks.flatten.length := by
      rw [List.length_replicate, Nat.zero_add]
    exact (Reading.andThen_ok hread).trans (Reading.andThen_ok (copyChunks_result chunks chunks [] _ hroom))

/-- What is held at any moment belongs to one of the two loops. -/
theorem readBoundedJson_held {header : Option Text} {maxBytes : Int} (reads : List Read) (hpositive : 0 < maxBytes)
    (hsafe : maxBytes ≤ maxSafeInteger) (hheader : ∀ n, declaredLength header = some n → (n : Int) ≤ maxBytes) {held : Held}
    (h : held ∈ (readBoundedJson parse ⟨header, some reads⟩ maxBytes).held) :
    held ∈ (readChunks maxBytes [] 0 reads).held ∨
      ∃ chunks totalBytes, (readChunks maxBytes [] 0 reads).result = .ok (chunks, totalBytes) ∧
        held ∈ (copyChunks chunks (List.replicate totalBytes 0) 0 chunks).held := by
  rw [readBoundedJson_stream parse reads hpositive hsafe hheader] at h
  rcases Reading.mem_andThen.1 h with hreading | ⟨⟨kept, totalBytes⟩, hread, hrest⟩
  · exact .inl hreading
  · rcases Reading.mem_andThen.1 hrest with hcopying | ⟨_, _, hparsed⟩
    · exact .inr ⟨kept, totalBytes, hread, hcopying⟩
    · cases hparsed

/-- While the stream is read, the chunk just read is the last one asked for, and the others are within the limit. -/
theorem readBoundedJson_reading {header : Option Text} {maxBytes : Int} {reads : List Read} (hpositive : 0 < maxBytes)
    (hsafe : maxBytes ≤ maxSafeInteger) (hheader : ∀ n, declaredLength header = some n → (n : Int) ≤ maxBytes)
    {kept : List Bytes} {value : Bytes} (h : .reading kept value ∈ (readBoundedJson parse ⟨header, some reads⟩ maxBytes).held) :
    kept ++ [value] <+: chunksOf reads ∧ (kept.flatten.length : Int) ≤ maxBytes := by
  have hzero : (([] : List Bytes).flatten.length : Int) ≤ maxBytes := Int.le_of_lt hpositive
  rcases readBoundedJson_held parse reads hpositive hsafe hheader h with hreading | ⟨_, _, _, hcopying⟩
  · obtain ⟨chunks, value', heq, hbefore, hsize⟩ := readChunks_held rfl hzero hreading
    obtain ⟨rfl, rfl⟩ := Held.reading.inj heq
    rw [List.nil_append] at hbefore
    exact ⟨hbefore, hsize⟩
  · obtain ⟨_, heq, _⟩ := copyChunks_held _ _ _ _ hcopying
    cases heq

/-- The chunks are copied once the whole stream was within the limit, into a buffer of its length. -/
theorem readBoundedJson_copying {header : Option Text} {maxBytes : Int} {chunks : List Bytes} (hpositive : 0 < maxBytes)
    (hsafe : maxBytes ≤ maxSafeInteger) (hheader : ∀ n, declaredLength header = some n → (n : Int) ≤ maxBytes)
    {kept : List Bytes} {bytes : Bytes}
    (h : .copying kept bytes ∈ (readBoundedJson parse ⟨header, some (chunks.map .chunk)⟩ maxBytes).held) :
    kept = chunks ∧ bytes.length = chunks.flatten.length ∧ (chunks.flatten.length : Int) ≤ maxBytes := by
  have hzero : (([] : List Bytes).flatten.length : Int) ≤ maxBytes := Int.le_of_lt hpositive
  rcases readBoundedJson_held parse _ hpositive hsafe hheader h with hreading | ⟨chunks', totalBytes, hread, hcopying⟩
  · obtain ⟨_, _, heq, _⟩ := readChunks_held rfl hzero hreading
    cases heq
  · obtain ⟨buffer, heq, hlength⟩ := copyChunks_held _ _ _ _ hcopying
    obtain ⟨rfl, rfl⟩ := Held.copying.inj heq
    have hfits : (chunks.flatten.length : Int) ≤ maxBytes := by
      refine Int.not_lt.1 fun hlong => ?_
      rw [readChunks_long chunks (Int.le_of_lt hpositive) (by simpa using hlong)] at hread
      cases hread
    rw [readChunks_fits chunks (by simpa using hfits)] at hread
    obtain ⟨rfl, rfl⟩ := Prod.mk.inj (Except.ok.inj hread)
    rw [List.length_replicate, Nat.zero_add] at hlength
    exact ⟨rfl, hlength, hfits⟩

/-- However a body is cut into chunks, it is refused as too large where it is longer than the limit, and comes to what its bytes come
to otherwise. While it is read, no more than the limit is held beside the chunk just read; while it is copied, it is held twice. -/
theorem readBoundedJson_chunks {header : Option Text} {maxBytes : Int} (b : Bytes) (chunks : List Bytes)
    (hsplit : chunks.flatten = b) (hpositive : 0 < maxBytes) (hsafe : maxBytes ≤ maxSafeInteger)
    (hheader : ∀ n, declaredLength header = some n → (n : Int) ≤ maxBytes) :
    let reading := readBoundedJson parse ⟨header, some (chunks.map .chunk)⟩ maxBytes
    (reading.result = .error (.bounded bodyTooLarge) ↔ maxBytes < b.length) ∧
      ((b.length : Int) ≤ maxBytes → reading.result = parseBody parse b) ∧
      (∀ kept value, .reading kept value ∈ reading.held →
        kept ++ [value] <+: chunks ∧ ((Held.reading kept value).size : Int) ≤ maxBytes + value.length) ∧
      ∀ kept bytes, .copying kept bytes ∈ reading.held →
        kept = chunks ∧ (Held.copying kept bytes).size = 2 * b.length ∧ (b.length : Int) ≤ maxBytes := by
  subst hsplit
  have hresult := readBoundedJson_result parse chunks hpositive hsafe hheader
  refine ⟨?_, ?_, ?_, ?_⟩
  · rw [hresult]
    split
    · rename_i hlong
      exact ⟨fun _ => hlong, fun _ => rfl⟩
    · rename_i hfits
      exact ⟨fun h => absurd h (parseBody_ne_tooLarge parse _), fun h => absurd h hfits⟩
  · intro hfits
    rw [hresult, if_neg (Int.not_lt.2 hfits)]
  · intro kept value h
    obtain ⟨hbefore, hsize⟩ := readBoundedJson_reading parse hpositive hsafe hheader h
    rw [chunksOf_map] at hbefore
    refine ⟨hbefore, ?_⟩
    rw [Held.size]
    omega
  · intro kept bytes h
    obtain ⟨rfl, hlength, hfits⟩ := readBoundedJson_copying parse hpositive hsafe hheader h
    refine ⟨rfl, ?_, hfits⟩
    rw [Held.size, hlength, Nat.two_mul]

end

/-- A parser that refuses every text. -/
def parseNothing (_ : Text) : Option Unit := none

/-- `null` in three chunks, with a header that declares its length. -/
def nullRequest : Request := ⟨some ['4'], some ([[0x6E], [], [0x75, 0x6C, 0x6C]].map .chunk)⟩

theorem readBoundedJson_null :
    let reading := readBoundedJson parseNothing nullRequest 4
    (reading.result = .error (.bounded bodyTooLarge) ↔ (4 : Int) < 4) ∧
      reading.result = parseBody parseNothing [0x6E, 0x75, 0x6C, 0x6C] := by
  have h := @readBoundedJson_chunks Unit parseNothing (some ['4']) 4 [0x6E, 0x75, 0x6C, 0x6C] [[0x6E], [], [0x75, 0x6C, 0x6C]]
    rfl (by decide) (by decide) (by decide)
  exact ⟨h.1, h.2.1 (by decide)⟩

/-- A body of the whole limit in chunks of a byte is held twice while it is copied, and a limit that is no safe integer is refused. -/
theorem readBoundedJson_copies :
    (∃ held ∈ (readBoundedJson parseNothing ⟨none, some ([[0x6E], [0x75], [0x6C], [0x6C]].map .chunk)⟩ 4).held,
        4 + 1 < held.size) ∧
      (readBoundedJson parseNothing ⟨none, some []⟩ (2 ^ 53)).result ≠ parseBody parseNothing [] := by
  refine ⟨⟨.copying [[0x6E], [0x75], [0x6C], [0x6C]] [0, 0, 0, 0], ?_, by decide⟩, ?_⟩
  · decide
  · decide

/-! ## Answers to errors -/

/-- An error is answered with one of two responses, which say nothing of the body. -/
def Sanitized (error : Thrown) : Prop :=
  boundedJsonErrorResponse error = boundedJsonErrorResponse (.bounded invalidBody) ∨
    boundedJsonErrorResponse error = boundedJsonErrorResponse (.bounded bodyTooLarge)

theorem sanitized_readChunks {maxBytes : Int} {reads : List Read} {kept : List Bytes} {totalBytes : Nat} {error : Thrown}
    (h : (readChunks maxBytes kept totalBytes reads).result = .error error) : Sanitized error := by
  induction reads generalizing kept totalBytes with
  | nil => cases h
  | cons read reads ih =>
    cases read with
    | other =>
      cases h
      exact .inl rfl
    | failed =>
      cases h
      exact .inl rfl
    | chunk value =>
      rw [readChunks] at h
      split at h
      · cases h
        exact .inr rfl
      · exact ih h

theorem sanitized_copyChunks {chunks rest : List Bytes} {bytes : Bytes} {offset : Nat} {error : Thrown}
    (h : (copyChunks chunks bytes offset rest).result = .error error) : Sanitized error := by
  induction rest generalizing bytes offset with
  | nil => cases h
  | cons chunk rest ih =>
    rw [copyChunks] at h
    split at h
    · cases h
      exact .inl rfl
    · exact ih h

theorem Reading.andThen_result_error {α β : Type} {first : Reading α} {rest : α → Reading β} {error : Thrown}
    (h : (first.andThen rest).result = .error error) :
    first.result = .error error ∨ ∃ a, (rest a).result = .error error := by
  cases hfirst : first.result with
  | error e =>
    rw [andThen_error hfirst] at h
    obtain rfl := Except.error.inj h
    exact .inl rfl
  | ok a =>
    rw [andThen_ok hfirst] at h
    exact .inr ⟨a, h⟩

/-- Whatever a request carries, the answer to the error it is refused with is one of two. -/
theorem sanitized_readBoundedJson {Value : Type} {parse : Text → Option Value} {request : Request} {maxBytes : Int} {error : Thrown}
    (h : (readBoundedJson parse request maxBytes).result = .error error) : Sanitized error := by
  unfold readBoundedJson at h
  split at h
  · cases h
    exact .inl rfl
  · split at h
    · cases h
      exact .inr rfl
    · split at h
      · cases h
        exact .inl rfl
      · rcases Reading.andThen_result_error h with hread | ⟨⟨chunks, totalBytes⟩, hrest⟩
        · exact sanitized_readChunks hread
        · rcases Reading.andThen_result_error hrest with hcopied | ⟨bytes, hparsed⟩
          · exact sanitized_copyChunks hcopied
          · dsimp only at hparsed
            unfold parseBody at hparsed
            split at hparsed
            · cases hparsed
            · cases hparsed
              exact .inl rfl

end BoundedBody

end PromptRail
