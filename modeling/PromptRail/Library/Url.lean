import PromptRail.Library.PyText

/-!
# Web URLs

The parser of the URL standard for `http` and `https`, on an input that begins with a slash: what is cleaned away, where authority, path,
query and fragment are parted, how a path is built of its segments, and what is percent-encoded. A text whose characters are none of those
that are encoded, and whose segments are none of those that are resolved, is read and written again unchanged.
-/

namespace Url

open PyText (Text)

/-! ## Percent-encoding -/

/-- A control character, or one that is not in ASCII. -/
def isControl (c : Char) : Bool := c.toNat ≤ 0x1F || 0x7E < c.toNat

def fragmentSet (c : Char) : Bool := isControl c || [' ', '"', '<', '>', Char.ofNat 0x60].contains c

def querySet (c : Char) : Bool := isControl c || [' ', '"', '#', '<', '>'].contains c

def specialQuerySet (c : Char) : Bool := querySet c || c == '\''

def pathSet (c : Char) : Bool := querySet c || ['?', '^', Char.ofNat 0x60, '{', '}'].contains c

def hexDigit (n : Nat) : Char := if n < 10 then Char.ofNat (48 + n) else Char.ofNat (55 + n)

def percentByte (byte : UInt8) : Text := ['%', hexDigit (byte.toNat / 16), hexDigit (byte.toNat % 16)]

def percentEncode (set : Char → Bool) (t : Text) : Text :=
  t.flatMap fun c => if set c then (PyText.encodeUtf8 [c]).flatMap percentByte else [c]

/-! ## Parts -/

/-- A slash, or what special URLs take for one. -/
def isSlash (c : Char) : Bool := c == '/' || c == '\\'

def isTrimmed (c : Char) : Bool := c.toNat ≤ 0x20

def isRemoved (c : Char) : Bool := c == '\t' || c == '\n' || c == '\r'

/-- An input without control characters and spaces around it, and without tabs and newlines in it. -/
def clean (input : Text) : Text :=
  ((input.dropWhile isTrimmed).reverse.dropWhile isTrimmed).reverse.filter fun c => !isRemoved c

/-- What stands before a mark, and what behind it, if it is there. -/
def breakAt (mark : Char) (t : Text) : Text × Option Text :=
  (t.takeWhile (· != mark), (t.dropWhile (· != mark)).tail?)

structure Parts where
  authority : Option Text
  path : Text
  query : Option Text
  fragment : Option Text

/-- The authority that two slashes introduce, and the path behind it. -/
def hierarchy (t : Text) : Option Text × Text :=
  match t with
  | a :: b :: rest =>
    if isSlash a && isSlash b then
      let rest := rest.dropWhile isSlash
      (some (rest.takeWhile fun c => !isSlash c), rest.dropWhile fun c => !isSlash c)
    else (none, t)
  | _ => (none, t)

def parts (t : Text) : Parts :=
  let (front, fragment) := breakAt '#' t
  let (front, query) := breakAt '?' front
  let (authority, path) := hierarchy front
  { authority, path, query, fragment }

/-! ## Origins -/

inductive Scheme where
  | http
  | https
deriving DecidableEq

def Scheme.defaultPort : Scheme → Nat
  | .http => 80
  | .https => 443

structure Origin where
  scheme : Scheme
  host : Text
  port : Option Nat
deriving DecidableEq

/-- A host and its port: the colon that parts them stands outside brackets. -/
def hostAndPort : Bool → Text → Text × Option Text
  | _, [] => ([], none)
  | bracketed, c :: rest =>
    if c == ':' && !bracketed then ([], some rest)
    else
      let (host, port) := hostAndPort (if c == '[' then true else if c == ']' then false else bracketed) rest
      (c :: host, port)

/-- The port of an authority: none where it is the default one, and nothing where it is no port. -/
def portOf (scheme : Scheme) : Option Text → Option (Option Nat)
  | none | some [] => some none
  | some (c :: digits) =>
    if (c :: digits).all Char.isDigit then
      let port := (c :: digits).foldl (fun n d => 10 * n + (d.toNat - 48)) 0
      if 65535 < port then none else some (if port = scheme.defaultPort then none else some port)
    else none

/-- What the host parser makes of the text of a host: its serialisation, or a failure. -/
abbrev HostParser := Text → Option Text

/-- The origin that an authority names: what stands before the last `@` of it is not a part of it. -/
def originOf (parseHost : HostParser) (scheme : Scheme) (authority : Text) : Option Origin := do
  let (host, port) := hostAndPort false (authority.reverse.takeWhile (· != '@')).reverse
  if host.isEmpty then none
  else
    let host ← parseHost host
    let port ← portOf scheme port
    some { scheme, host, port }

/-! ## Paths -/

def lower (s : Text) : Text := s.map Char.toLower

def isSingleDot (s : Text) : Bool := [['.'], "%2e".toList].contains (lower s)

def isDoubleDot (s : Text) : Bool := [['.', '.'], ".%2e".toList, "%2e.".toList, "%2e%2e".toList].contains (lower s)

def isDot (s : Text) : Bool := isSingleDot s || isDoubleDot s

/-- A path with one more segment, which a slash ends. -/
def push (path : List Text) (s : Text) : List Text :=
  if isDoubleDot s then path.dropLast else if isSingleDot s then path else path ++ [s]

/-- A path with its last segment: where that is a dot, it leaves an empty one. -/
def pushLast (path : List Text) (s : Text) : List Text :=
  if isDoubleDot s then path.dropLast ++ [[]] else if isSingleDot s then path ++ [[]] else path ++ [s]

/-- The path of its segments, as they are read. -/
def pathOf : List Text → List Text → List Text
  | path, [] => path
  | path, [s] => pushLast path s
  | path, s :: t :: rest => pathOf (push path s) (t :: rest)

/-- The segments of the text of a path, as they are compared with dots. -/
def segments (path : Text) : List Text := ((path.drop 1).splitOnP isSlash).map (percentEncode pathSet)

/-! ## The parser -/

structure WebUrl where
  origin : Origin
  path : List Text
  query : Option Text
  fragment : Option Text

def WebUrl.pathname (url : WebUrl) : Text := url.path.flatMap fun s => '/' :: s

/-- A part with its mark, which is left out with an empty part. -/
def marked (mark : Char) : Option Text → Text
  | none | some [] => []
  | some (c :: t) => mark :: c :: t

def WebUrl.search (url : WebUrl) : Text := marked '?' url.query

def WebUrl.hash (url : WebUrl) : Text := marked '#' url.fragment

/-- The parser, on an input that begins with a slash. -/
def parse (parseHost : HostParser) (base : Origin) (input : Text) : Option WebUrl :=
  let parts := parts (clean input)
  let origin :=
    match parts.authority with
    | none => some base
    | some authority => originOf parseHost base.scheme authority
  origin.map fun origin => {
    origin
    path := pathOf [] (segments parts.path)
    query := parts.query.map (percentEncode specialQuerySet)
    fragment := parts.fragment.map (percentEncode fragmentSet) }

/-- An input that names no host stays at the origin it is resolved against. -/
theorem parse_relative {parseHost : HostParser} {base : Origin} {input : Text} (h : (parts (clean input)).authority = none) :
    parse parseHost base input = some {
      origin := base
      path := pathOf [] (segments (parts (clean input)).path)
      query := (parts (clean input)).query.map (percentEncode specialQuerySet)
      fragment := (parts (clean input)).fragment.map (percentEncode fragmentSet) } := by
  dsimp only [parse]
  rw [h]
  rfl

theorem parse_absolute {parseHost : HostParser} {base : Origin} {input authority : Text}
    (h : (parts (clean input)).authority = some authority) :
    parse parseHost base input = (originOf parseHost base.scheme authority).map fun origin => {
      origin
      path := pathOf [] (segments (parts (clean input)).path)
      query := (parts (clean input)).query.map (percentEncode specialQuerySet)
      fragment := (parts (clean input)).fragment.map (percentEncode fragmentSet) } := by
  dsimp only [parse]
  rw [h]

/-! ## Where a path begins with two slashes -/

/-- The number of segments of a path after one more. -/
def keptNext (n : Nat) (s : Text) : Nat := if isDoubleDot s then n - 1 else if isSingleDot s then n else n + 1

/-- The number of segments that are kept of those that are read, behind `n` of them. -/
def kept (n : Nat) (segs : List Text) : Nat := segs.foldl keptNext n

/-- What was kept before is not cancelled, and it is not all that remains. -/
def Outlives (n : Nat) (segs : List Text) : Prop :=
  (∀ front, front <+: segs → 0 < kept n front) ∧ (2 ≤ kept n segs ∨ ∃ s ∈ segs.getLast?, isDot s = true)

/-- An empty segment stands where all segments before it are cancelled, and outlives those behind it. -/
def RootedTwice (n : Nat) (segs : List Text) : Prop :=
  ∃ front back, segs = front ++ [] :: back ∧ kept n front = 0 ∧ Outlives 1 back

def StartsTwice (path : List Text) : Prop := path.head? = some [] ∧ 2 ≤ path.length

theorem kept_cons (n : Nat) (s : Text) (segs : List Text) : kept n (s :: segs) = kept (keptNext n s) segs := rfl

theorem length_push (path : List Text) (s : Text) : (push path s).length = keptNext path.length s := by
  unfold push keptNext
  split
  · exact List.length_dropLast
  · split
    · rfl
    · exact List.length_append

theorem Outlives.pos {n : Nat} {segs : List Text} (h : Outlives n segs) : 0 < n := h.1 [] List.nil_prefix

theorem outlives_cons {n : Nat} {s t : Text} {rest : List Text} :
    Outlives n (s :: t :: rest) ↔ 0 < n ∧ Outlives (keptNext n s) (t :: rest) := by
  constructor
  · intro h
    exact ⟨h.pos, fun front hfront => h.1 (s :: front) (List.cons_prefix_cons.2 ⟨rfl, hfront⟩), h.2⟩
  · rintro ⟨hpos, hrest, hlast⟩
    refine ⟨fun front hfront => ?_, hlast⟩
    cases front with
    | nil => exact hpos
    | cons a front =>
      obtain ⟨rfl, htail⟩ := List.cons_prefix_cons.1 hfront
      exact hrest front htail

theorem rootedTwice_cons {n : Nat} {s : Text} {segs : List Text} :
    RootedTwice n (s :: segs) ↔ (n = 0 ∧ s = [] ∧ Outlives 1 segs) ∨ RootedTwice (keptNext n s) segs := by
  constructor
  · rintro ⟨front, back, heq, hkept, hback⟩
    cases front with
    | nil =>
      obtain ⟨rfl, rfl⟩ := List.cons.inj heq
      exact Or.inl ⟨hkept, rfl, hback⟩
    | cons a front =>
      obtain ⟨rfl, htail⟩ := List.cons.inj heq
      exact Or.inr ⟨front, back, htail, hkept, hback⟩
  · rintro (⟨rfl, rfl, h⟩ | ⟨front, back, rfl, hkept, hback⟩)
    · exact ⟨[], segs, rfl, rfl, h⟩
    · exact ⟨s :: front, back, rfl, hkept, hback⟩

/-- One segment is the last one of the path. -/
theorem startsTwice_pushLast (path : List Text) (s : Text) :
    StartsTwice (pushLast path s) ↔ path.head? = some [] ∧ Outlives path.length [s] := by
  have hprefixes : ∀ n, (∀ front, front <+: [s] → 0 < kept n front) ↔ 0 < n ∧ 0 < keptNext n s := by
    intro n
    constructor
    · exact fun h => ⟨h [] List.nil_prefix, h [s] (List.prefix_refl _)⟩
    · rintro ⟨hn, hs⟩ front hfront
      cases front with
      | nil => exact hn
      | cons a front =>
        obtain ⟨rfl, htail⟩ := List.cons_prefix_cons.1 hfront
        rw [List.prefix_nil.1 htail]
        exact hs
  unfold StartsTwice Outlives
  rw [hprefixes, kept_cons]
  simp only [pushLast, isDot, List.getLast?_singleton, Option.mem_some, exists_eq_left']
  cases hdouble : isDoubleDot s with
  | true =>
    simp only [if_true, Bool.or_true, or_true, and_true, keptNext, hdouble]
    cases path with
    | nil => simp
    | cons x path =>
      cases path with
      | nil => simp
      | cons y path => simp
  | false =>
    cases hsingle : isSingleDot s with
    | true =>
      simp only [Bool.false_eq_true, if_false, if_true, Bool.or_false, or_true, and_true, keptNext, hdouble, hsingle]
      cases path with
      | nil => simp
      | cons x path => simp
    | false =>
      simp only [Bool.false_eq_true, if_false, Bool.or_false, or_false, keptNext, hdouble, hsingle]
      cases path with
      | nil => simp [kept]
      | cons x path => simp [kept]

theorem head?_push {path : List Text} {s : Text} (hlast : 0 < keptNext path.length s) :
    (push path s).head? = some [] ↔ path.head? = some [] ∨ path = [] ∧ s = [] := by
  unfold push keptNext at *
  cases path with
  | nil =>
    split at hlast
    · nomatch hlast
    · split at hlast
      · nomatch hlast
      · simp_all
  | cons x path =>
    have hne : ¬(x :: path = [] ∧ s = []) := fun h => nomatch h.1
    rw [or_iff_left hne]
    split
    · rename_i hdouble
      rw [if_pos hdouble] at hlast
      cases path with
      | nil => nomatch hlast
      | cons y path => rfl
    · split <;> rfl

/-- A path begins with two slashes exactly if its first segment was empty and stays, or an empty segment comes to stand first and is not
the last one. -/
theorem startsTwice_pathOf (path : List Text) {segs : List Text} (h : segs ≠ []) : StartsTwice (pathOf path segs) ↔
    (path.head? = some [] ∧ Outlives path.length segs) ∨ RootedTwice path.length segs := by
  induction segs generalizing path with
  | nil => exact absurd rfl h
  | cons s segs ih =>
    cases segs with
    | nil =>
      have hnone : ¬RootedTwice path.length [s] := by
        rw [rootedTwice_cons]
        rintro (⟨-, -, -, hmore | ⟨_, hmem, -⟩⟩ | ⟨front, back, heq, -⟩)
        · exact absurd hmore (by decide)
        · nomatch hmem
        · cases front <;> nomatch heq
      rw [or_iff_left hnone]
      exact startsTwice_pushLast path s
    | cons t rest =>
      rw [pathOf, ih (push path s) (List.cons_ne_nil t rest), length_push, outlives_cons, rootedTwice_cons (s := s), ← or_assoc]
      refine or_congr_left ⟨fun ⟨hhead, hout⟩ => ?_, ?_⟩
      · rcases (head?_push hout.pos).1 hhead with hhead | ⟨rfl, rfl⟩
        · refine Or.inl ⟨hhead, ?_, hout⟩
          cases path with
          | nil => nomatch hhead
          | cons x path => exact Nat.succ_pos _
        · exact Or.inr ⟨rfl, rfl, hout⟩
      · rintro (⟨hhead, -, hout⟩ | ⟨hzero, rfl, hout⟩)
        · exact ⟨(head?_push hout.pos).2 (Or.inl hhead), hout⟩
        · obtain rfl := List.length_eq_zero_iff.1 hzero
          exact ⟨rfl, hout⟩

/-! ## Reading what was written -/

/-- A URL without its origin, as it is written. -/
def WebUrl.written (url : WebUrl) : Text := url.pathname ++ url.search ++ url.hash

/-- A set of which no character is written in its encoding. -/
def Spares (set : Char → Bool) : Prop := set '%' = false ∧ ∀ n < 16, set (hexDigit n) = false

theorem spares_pathSet : Spares pathSet := by unfold Spares; decide

theorem spares_specialQuerySet : Spares specialQuerySet := by unfold Spares; decide

theorem spares_fragmentSet : Spares fragmentSet := by unfold Spares; decide

theorem mem_percentByte {byte : UInt8} {c : Char} (h : c ∈ percentByte byte) : c = '%' ∨ ∃ n < 16, c = hexDigit n := by
  have hbound := byte.toNat_lt
  simp only [percentByte, List.mem_cons, List.not_mem_nil, or_false] at h
  rcases h with rfl | rfl | rfl
  · exact Or.inl rfl
  · exact Or.inr ⟨_, by omega, rfl⟩
  · exact Or.inr ⟨_, by omega, rfl⟩

/-- A character of an encoded text was there and is not encoded, or belongs to an encoding. -/
theorem mem_percentEncode {set : Char → Bool} {t : Text} {c : Char} (h : c ∈ percentEncode set t) :
    (c ∈ t ∧ set c = false) ∨ c = '%' ∨ ∃ n < 16, c = hexDigit n := by
  obtain ⟨d, hd, hc⟩ := List.mem_flatMap.1 h
  split at hc
  · obtain ⟨byte, -, hc⟩ := List.mem_flatMap.1 hc
    exact Or.inr (mem_percentByte hc)
  · rename_i hset
    obtain rfl := List.mem_singleton.1 hc
    exact Or.inl ⟨hd, by simpa using hset⟩

theorem not_set_percentEncode {set : Char → Bool} (hset : Spares set) (t : Text) : ∀ c ∈ percentEncode set t, set c = false := by
  intro c hc
  rcases mem_percentEncode hc with ⟨-, h⟩ | rfl | ⟨n, hn, rfl⟩
  · exact h
  · exact hset.1
  · exact hset.2 n hn

theorem percentEncode_eq_self {set : Char → Bool} {t : Text} (h : ∀ c ∈ t, set c = false) : percentEncode set t = t := by
  unfold percentEncode
  induction t with
  | nil => rfl
  | cons c t ih =>
    obtain ⟨hc, ht⟩ := List.forall_mem_cons.1 h
    rw [List.flatMap_cons, ih ht, hc]
    rfl

theorem graphic_of_not_control {c : Char} (hcontrol : isControl c = false) (hspace : c ≠ ' ') : 0x20 < c.toNat := by
  simp only [isControl, Bool.or_eq_false_iff, decide_eq_false_iff_not] at hcontrol
  have hne : c.toNat ≠ 0x20 := by
    intro heq
    refine hspace ?_
    rw [← Char.ofNat_toNat c, heq]
  omega

theorem pathSet_false {c : Char} (h : pathSet c = false) : 0x20 < c.toNat ∧ c ≠ '?' ∧ c ≠ '#' := by
  simp only [pathSet, querySet, Bool.or_eq_false_iff, List.contains_eq_mem, decide_eq_false_iff_not, List.mem_cons, not_or] at h
  exact ⟨graphic_of_not_control h.1.1 h.1.2.1, h.2.1, h.1.2.2.2.1⟩

theorem specialQuerySet_false {c : Char} (h : specialQuerySet c = false) : 0x20 < c.toNat ∧ c ≠ '#' := by
  simp only [specialQuerySet, querySet, Bool.or_eq_false_iff, List.contains_eq_mem, decide_eq_false_iff_not, List.mem_cons, not_or] at h
  exact ⟨graphic_of_not_control h.1.1 h.1.2.1, h.1.2.2.2.1⟩

theorem fragmentSet_false {c : Char} (h : fragmentSet c = false) : 0x20 < c.toNat := by
  simp only [fragmentSet, Bool.or_eq_false_iff, List.contains_eq_mem, decide_eq_false_iff_not, List.mem_cons, not_or] at h
  exact graphic_of_not_control h.1 h.2.1

/-- Nothing is cleaned from a text without spaces and control characters. -/
theorem clean_eq_self {t : Text} (h : ∀ c ∈ t, 0x20 < c.toNat) : clean t = t := by
  have htrim : ∀ u : Text, (∀ c ∈ u, 0x20 < c.toNat) → u.dropWhile isTrimmed = u := by
    intro u hu
    cases u with
    | nil => rfl
    | cons c u =>
      refine List.dropWhile_cons_of_neg ?_
      have := hu c List.mem_cons_self
      simp only [isTrimmed, decide_eq_true_eq]
      omega
  unfold clean
  rw [htrim t h, htrim t.reverse fun c hc => h c (List.mem_reverse.1 hc), List.reverse_reverse]
  refine List.filter_eq_self.2 fun c hc => ?_
  have hgraphic := h c hc
  simp only [isRemoved, Bool.not_eq_true', Bool.or_eq_false_iff, beq_eq_false_iff_ne]
  refine ⟨⟨?_, ?_⟩, ?_⟩ <;> rintro rfl <;> exact absurd hgraphic (by decide)

def nonempty (part : Option Text) : Option Text := part.filter fun t => !t.isEmpty

theorem marked_nonempty (mark : Char) (part : Option Text) : marked mark (nonempty part) = marked mark part := by
  rcases part with _ | _ | _ <;> rfl

/-- A part is found behind its mark. -/
theorem breakAt_marked {mark : Char} {front : Text} (h : ∀ c ∈ front, c ≠ mark) (part : Option Text) :
    breakAt mark (front ++ marked mark part) = (front, nonempty part) := by
  have hfront : ∀ c ∈ front, (c != mark) = true := fun c hc => bne_iff_ne.2 (h c hc)
  unfold breakAt
  rw [List.takeWhile_append_of_pos hfront, List.dropWhile_append_of_pos hfront]
  rcases part with _ | _ | ⟨c, t⟩
  · exact Prod.ext (List.append_nil _) rfl
  · exact Prod.ext (List.append_nil _) rfl
  · have hstop : (mark :: c :: t).takeWhile (· != mark) = [] ∧ (mark :: c :: t).dropWhile (· != mark) = mark :: c :: t := by simp
    show (front ++ (mark :: c :: t).takeWhile (· != mark), ((mark :: c :: t).dropWhile (· != mark)).tail?) = _
    rw [hstop.1, hstop.2, List.append_nil]
    rfl

/-- A path of segments that are kept as they are. -/
structure CleanPath (path : List Text) : Prop where
  ne_nil : path ≠ []
  not_dot : ∀ s ∈ path, isDot s = false
  plain : ∀ s ∈ path, ∀ c ∈ s, pathSet c = false ∧ isSlash c = false

theorem isDot_nil : isDot [] = false := by decide

/-- What is read of segments that are encoded is a path of segments that are kept. -/
theorem cleanPath_pathOf {path segs : List Text} (hne : segs ≠ []) (hdots : ∀ s ∈ path, isDot s = false)
    (hpath : ∀ s ∈ path, ∀ c ∈ s, pathSet c = false ∧ isSlash c = false)
    (hsegs : ∀ s ∈ segs, ∀ c ∈ s, pathSet c = false ∧ isSlash c = false) : CleanPath (pathOf path segs) := by
  have hnil : ∀ c ∈ ([] : Text), pathSet c = false ∧ isSlash c = false := fun c hc => absurd hc List.not_mem_nil
  induction segs generalizing path with
  | nil => exact absurd rfl hne
  | cons s segs ih =>
    obtain ⟨hs, hsegs⟩ := List.forall_mem_cons.1 hsegs
    cases segs with
    | nil =>
      have happend : ∀ front t, (∀ u ∈ front, u ∈ path) → isDot t = false → (∀ c ∈ t, pathSet c = false ∧ isSlash c = false) →
          CleanPath (front ++ [t]) := fun front t hfront hdot hplain =>
        ⟨by simp, List.forall_mem_append.2 ⟨fun u hu => hdots u (hfront u hu), List.forall_mem_singleton.2 hdot⟩,
          List.forall_mem_append.2 ⟨fun u hu => hpath u (hfront u hu), List.forall_mem_singleton.2 hplain⟩⟩
      rw [pathOf, pushLast]
      split
      · exact happend _ _ (fun u hu => List.dropLast_subset _ hu) isDot_nil hnil
      · rename_i hdouble
        split
        · exact happend _ _ (fun u hu => hu) isDot_nil hnil
        · rename_i hsingle
          refine happend _ _ (fun u hu => hu) ?_ hs
          rw [isDot, Bool.or_eq_false_iff]
          exact ⟨by simpa using hsingle, by simpa using hdouble⟩
    | cons t rest =>
      rw [pathOf]
      have hpush : ∀ u ∈ push path s, u ∈ path ∨ u = s ∧ isDot s = false := by
        intro u hu
        unfold push at hu
        split at hu
        · exact Or.inl (List.dropLast_subset _ hu)
        · rename_i hdouble
          split at hu
          · exact Or.inl hu
          · rename_i hsingle
            refine (List.mem_append.1 hu).imp id fun hlast => ⟨List.mem_singleton.1 hlast, ?_⟩
            rw [isDot, Bool.or_eq_false_iff]
            exact ⟨by simpa using hsingle, by simpa using hdouble⟩
      refine ih (List.cons_ne_nil t rest) (fun u hu => ?_) (fun u hu => ?_) hsegs
      · rcases hpush u hu with hold | ⟨rfl, hdot⟩
        · exact hdots u hold
        · exact hdot
      · rcases hpush u hu with hold | ⟨rfl, -⟩
        · exact hpath u hold
        · exact hs

theorem isSlash_hexDigit : isSlash '%' = false ∧ ∀ n < 16, isSlash (hexDigit n) = false := by decide

/-- No separator is left in what is split at them. -/
theorem not_mem_splitOnP {α : Type} {p : α → Bool} (xs : List α) : ∀ part ∈ xs.splitOnP p, ∀ x ∈ part, p x = false := by
  induction xs with
  | nil =>
    intro part hpart x hx
    rw [List.splitOnP_nil, List.mem_singleton] at hpart
    rw [hpart] at hx
    exact absurd hx List.not_mem_nil
  | cons a xs ih =>
    intro part hpart x hx
    rw [List.splitOnP_cons_eq_if_modifyHead] at hpart
    split at hpart
    · rcases List.mem_cons.1 hpart with rfl | hrest
      · exact absurd hx List.not_mem_nil
      · exact ih part hrest x hx
    · rename_i ha
      obtain ⟨b, bs, hsplit⟩ := List.exists_cons_of_ne_nil (List.splitOnP_ne_nil p xs)
      rw [hsplit] at hpart ih
      rcases List.mem_cons.1 hpart with rfl | hrest
      · rcases List.mem_cons.1 hx with rfl | hx
        · simpa using ha
        · exact ih b List.mem_cons_self x hx
      · exact ih part (List.mem_cons_of_mem b hrest) x hx

/-- The segments of a path are encoded and hold no slash. -/
theorem plain_segments (path : Text) : segments path ≠ [] ∧ ∀ s ∈ segments path, ∀ c ∈ s, pathSet c = false ∧ isSlash c = false := by
  constructor
  · exact fun h => List.splitOnP_ne_nil isSlash (path.drop 1) (List.map_eq_nil_iff.1 h)
  · intro s hs c hc
    obtain ⟨part, hpart, rfl⟩ := List.mem_map.1 hs
    refine ⟨not_set_percentEncode spares_pathSet part c hc, ?_⟩
    rcases mem_percentEncode hc with ⟨hmem, -⟩ | rfl | ⟨n, hn, rfl⟩
    · exact not_mem_splitOnP (path.drop 1) part hpart c hmem
    · exact isSlash_hexDigit.1
    · exact isSlash_hexDigit.2 n hn

theorem splitOnP_joined {segs : List Text} (h : ∀ s ∈ segs, ∀ c ∈ s, isSlash c = false) {first : Text}
    (hfirst : ∀ c ∈ first, isSlash c = false) : (first ++ segs.flatMap fun s => '/' :: s).splitOnP isSlash = first :: segs := by
  induction segs generalizing first with
  | nil =>
    rw [List.flatMap_nil, List.append_nil]
    exact List.splitOnP_eq_singleton hfirst
  | cons s segs ih =>
    obtain ⟨hs, hsegs⟩ := List.forall_mem_cons.1 h
    rw [List.flatMap_cons, List.cons_append, List.splitOnP_append_cons_of_forall_mem hfirst '/' rfl, ih hsegs hs]

theorem pathOf_clean (path : List Text) {segs : List Text} (h : ∀ s ∈ segs, isDot s = false) : pathOf path segs = path ++ segs := by
  induction segs generalizing path with
  | nil => rw [pathOf, List.append_nil]
  | cons s segs ih =>
    obtain ⟨hs, hsegs⟩ := List.forall_mem_cons.1 h
    obtain ⟨hsingle, hdouble⟩ := Bool.or_eq_false_iff.1 hs
    have hdouble' : ¬isDoubleDot s = true := by rw [hdouble]; decide
    have hsingle' : ¬isSingleDot s = true := by rw [hsingle]; decide
    cases segs with
    | nil => rw [pathOf, pushLast, if_neg hdouble', if_neg hsingle']
    | cons t rest => rw [pathOf, ih _ hsegs, push, if_neg hdouble', if_neg hsingle', List.append_assoc, List.singleton_append]

/-- The parts of a URL that are kept as they are. -/
structure Written (url : WebUrl) : Prop where
  path : CleanPath url.path
  query : ∀ q ∈ url.query, ∀ c ∈ q, specialQuerySet c = false
  fragment : ∀ f ∈ url.fragment, ∀ c ∈ f, fragmentSet c = false

theorem written_parse {parseHost : HostParser} {base : Origin} {input : Text} {url : WebUrl} (h : parse parseHost base input = some url) :
    Written url := by
  unfold parse at h
  obtain ⟨origin, -, rfl⟩ := Option.map_eq_some_iff.1 h
  obtain ⟨hne, hplain⟩ := plain_segments (parts (clean input)).path
  constructor
  · exact cleanPath_pathOf hne (fun s hs => absurd hs List.not_mem_nil) (fun s hs => absurd hs List.not_mem_nil) hplain
  · intro q hq
    obtain ⟨q, -, rfl⟩ := Option.map_eq_some_iff.1 hq
    exact not_set_percentEncode spares_specialQuerySet q
  · intro f hf
    obtain ⟨f, -, rfl⟩ := Option.map_eq_some_iff.1 hf
    exact not_set_percentEncode spares_fragmentSet f

theorem mem_marked {mark c : Char} {part : Option Text} (h : c ∈ marked mark part) : c = mark ∨ ∃ t ∈ part, c ∈ t := by
  rcases part with _ | _ | ⟨d, t⟩
  · exact absurd h List.not_mem_nil
  · exact absurd h List.not_mem_nil
  · rcases List.mem_cons.1 h with rfl | h
    · exact Or.inl rfl
    · exact Or.inr ⟨d :: t, rfl, h⟩

theorem mem_pathname {url : WebUrl} {c : Char} (h : c ∈ url.pathname) : c = '/' ∨ ∃ s ∈ url.path, c ∈ s := by
  obtain ⟨s, hs, hc⟩ := List.mem_flatMap.1 h
  rcases List.mem_cons.1 hc with rfl | hc
  · exact Or.inl rfl
  · exact Or.inr ⟨s, hs, hc⟩

/-- A path that does not begin with two slashes is no authority. -/
theorem hierarchy_pathname {url : WebUrl} (h : CleanPath url.path) (hstarts : ¬StartsTwice url.path) :
    hierarchy url.pathname = (none, url.pathname) := by
  obtain ⟨s, segs, hpath⟩ := List.exists_cons_of_ne_nil h.ne_nil
  have hplain := h.plain s (by rw [hpath]; exact List.mem_cons_self)
  unfold WebUrl.pathname
  rw [hpath] at hstarts ⊢
  rw [List.flatMap_cons, List.cons_append]
  cases s with
  | nil =>
    cases segs with
    | nil => rfl
    | cons t segs => exact absurd ⟨rfl, by simp⟩ hstarts
  | cons c s =>
    have hslash := (hplain c List.mem_cons_self).2
    simp only [hierarchy, List.cons_append, hslash, Bool.and_false, Bool.false_eq_true, if_false]

/-- What is written of a URL whose path does not begin with two slashes is read as it was, at the origin it is read at. -/
theorem parse_written {url : WebUrl} (h : Written url) (hstarts : ¬StartsTwice url.path) (parseHost : HostParser) (base : Origin) :
    parse parseHost base url.written =
      some { origin := base, path := url.path, query := nonempty url.query, fragment := nonempty url.fragment } := by
  have hpathname : ∀ c ∈ url.pathname, 0x20 < c.toNat ∧ c ≠ '?' ∧ c ≠ '#' := by
    intro c hc
    rcases mem_pathname hc with rfl | ⟨s, hs, hc⟩
    · decide
    · exact pathSet_false (h.path.plain s hs c hc).1
  have hsearch : ∀ c ∈ url.search, 0x20 < c.toNat ∧ c ≠ '#' := by
    intro c hc
    rcases mem_marked hc with rfl | ⟨q, hq, hc⟩
    · decide
    · exact specialQuerySet_false (h.query q hq c hc)
  have hhash : ∀ c ∈ url.hash, 0x20 < c.toNat := by
    intro c hc
    rcases mem_marked hc with rfl | ⟨f, hf, hc⟩
    · decide
    · exact fragmentSet_false (h.fragment f hf c hc)
  have hclean : clean url.written = url.written := clean_eq_self (List.forall_mem_append.2
    ⟨List.forall_mem_append.2 ⟨fun c hc => (hpathname c hc).1, fun c hc => (hsearch c hc).1⟩, hhash⟩)
  have hfragment : breakAt '#' url.written = (url.pathname ++ url.search, nonempty url.fragment) :=
    breakAt_marked (List.forall_mem_append.2 ⟨fun c hc => (hpathname c hc).2.2, fun c hc => (hsearch c hc).2⟩) url.fragment
  have hquery : breakAt '?' (url.pathname ++ url.search) = (url.pathname, nonempty url.query) :=
    breakAt_marked (fun c hc => (hpathname c hc).2.1) url.query
  have hparts : parts url.written = ⟨none, url.pathname, nonempty url.query, nonempty url.fragment⟩ := by
    simp only [parts, hfragment, hquery, hierarchy_pathname h.path hstarts]
  have hsegments : segments url.pathname = url.path := by
    obtain ⟨s, segs, hpath⟩ := List.exists_cons_of_ne_nil h.path.ne_nil
    have hplain := h.path.plain
    rw [hpath] at hplain
    obtain ⟨hs, hsegs⟩ := List.forall_mem_cons.1 hplain
    simp only [segments, WebUrl.pathname, hpath, List.flatMap_cons, List.cons_append, List.drop_succ_cons, List.drop_zero]
    rw [splitOnP_joined (fun t ht c hc => (hsegs t ht c hc).2) fun c hc => (hs c hc).2]
    refine (List.map_congr_left fun t ht => ?_).trans (List.map_id' _)
    exact percentEncode_eq_self fun c hc => (hplain t ht c hc).1
  have hkept : ∀ (set : Char → Bool) (part : Option Text), (∀ t ∈ part, ∀ c ∈ t, set c = false) →
      (nonempty part).map (percentEncode set) = nonempty part := by
    intro set part hpart
    rcases part with _ | t
    · rfl
    · rw [nonempty, Option.filter_some]
      split
      · rw [Option.map_some, percentEncode_eq_self (hpart t rfl)]
      · rfl
  unfold parse
  rw [hclean, hparts]
  simp only [Option.map_some, hsegments, pathOf_clean [] h.path.not_dot, List.nil_append, hkept _ _ h.query, hkept _ _ h.fragment]

theorem written_congr {url : WebUrl} (origin : Origin) :
    WebUrl.written ⟨origin, url.path, nonempty url.query, nonempty url.fragment⟩ = url.written := by
  simp only [WebUrl.written, WebUrl.search, WebUrl.hash, marked_nonempty]
  rfl

end Url
