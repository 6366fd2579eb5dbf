/-
  File:      MavlinkServer/Lib/UrlStandard.lean
  Subject:   HOST AND PATH OF A URL WITH A SCHEME THAT IS NOT SPECIAL, as the URL
             standard has them. Nothing here names a program.

  The text is what stands behind the two slashes, without a port.

  * `cleaned`, `authority`, `pathText` -- its parts;
  * `encode` -- percent-encoding; the set is a parameter;
  * `walk` -- the segments, where a dot stands for nothing and two dots take the
    segment before away;
  * `standardHost`, `standardPath` -- what a URL has of the text;
  * **`standardPath_eq_self_iff`**, `standardHost_eq_self_iff` -- the texts that
    are their own path, and their own host.
-/
import Mathlib.Data.List.DropRight
import Mathlib.Data.List.Flatten
import Mathlib.Data.List.TakeWhile

namespace Lib
namespace UrlStandard

/-! ## 1. Percent-encoding -/

def hexDigit (n : Nat) : Char := "0123456789ABCDEF".toList.getD n '0'

def percentByte (b : UInt8) : List Char :=
  ['%', hexDigit (b.toNat / 16), hexDigit (b.toNat % 16)]

/-- UTF-8 percent-encode: of the characters in the set, each of its bytes. -/
def encode (set : Char → Bool) (text : List Char) : List Char :=
  text.flatMap fun c => if set c then (String.utf8EncodeChar c).flatMap percentByte else [c]

/-- The characters of an encoded byte. -/
def percentChars : List Char := '%' :: "0123456789ABCDEF".toList

/-- The C0 control percent-encode set. -/
def controlSet (c : Char) : Bool := c.toNat < 0x20 || 0x7e < c.toNat

/-- The path percent-encode set: the controls, the space, the quotation mark, the backtick, braces,
    and # < > ?. Whether ^ is in it depends on the edition. -/
def pathSet (caret : Bool) (c : Char) : Bool :=
  controlSet c || c.toNat ∈ [0x20, 0x22, 0x23, 0x3c, 0x3e, 0x3f, 0x60, 0x7b, 0x7d] ||
    (caret && c = '^')

section Encode

variable {set : Char → Bool} {text : List Char} {c : Char}

theorem hexDigit_mem (n : Nat) : hexDigit n ∈ percentChars := by
  unfold hexDigit
  rw [List.getD_eq_getElem?_getD]
  cases hget : "0123456789ABCDEF".toList[n]? with
  | none => decide
  | some digit => exact List.mem_cons_of_mem _ (List.mem_of_getElem? hget)

theorem mem_percentByte {b : UInt8} (h : c ∈ percentByte b) : c ∈ percentChars := by
  simp only [percentByte, List.mem_cons, List.not_mem_nil, or_false] at h
  rcases h with rfl | rfl | rfl
  · exact List.mem_cons_self
  · exact hexDigit_mem _
  · exact hexDigit_mem _

theorem mem_encode (h : c ∈ encode set text) :
    c ∈ percentChars ∨ (c ∈ text ∧ set c = false) := by
  obtain ⟨a, ha, hc⟩ := List.mem_flatMap.mp h
  split at hc
  · obtain ⟨b, _, hb⟩ := List.mem_flatMap.mp hc
    exact Or.inl (mem_percentByte hb)
  · rename_i hset
    obtain rfl := List.mem_singleton.mp hc
    exact Or.inr ⟨ha, Bool.eq_false_iff.mpr hset⟩

/-- A text without characters of the set stays as it is. -/
theorem encode_eq_self (h : ∀ c ∈ text, set c = false) : encode set text = text := by
  induction text with
  | nil => rfl
  | cons a rest ih =>
      have ha : ¬ set a = true := by
        rw [h a List.mem_cons_self]
        exact Bool.false_ne_true
      have hrest := ih fun c hc => h c (List.mem_cons_of_mem _ hc)
      unfold encode at hrest ⊢
      rw [List.flatMap_cons, if_neg ha, hrest]
      rfl

end Encode

/-- A property of a few characters, from a test of each of them. -/
theorem forall_mem_of_all {p : Char → Prop} [DecidablePred p] {text : List Char}
    (h : (text.all fun c => decide (p c)) = true) : ∀ c ∈ text, p c := fun c hc =>
  of_decide_eq_true (List.all_eq_true.mp h c hc)

theorem controlSet_percentChars : ∀ c ∈ percentChars, controlSet c = false :=
  forall_mem_of_all (by decide)

theorem pathSet_percentChars (caret : Bool) : ∀ c ∈ percentChars, pathSet caret c = false :=
  forall_mem_of_all (by cases caret <;> decide)

theorem pathSet_slash (caret : Bool) : pathSet caret '/' = false := by
  cases caret <;> decide

theorem pathSet_signs (caret : Bool) : ∀ c ∈ [' ', '?', '#'], pathSet caret c = true :=
  forall_mem_of_all (by cases caret <;> decide)

/-! ## 2. The parts of the text -/

/-- Controls and spaces at the end, and tabs and line breaks anywhere, are removed first. -/
def cleaned (text : List Char) : List Char :=
  (text.rdropWhile (·.toNat ≤ 0x20)).filter (·.toNat ∉ [0x09, 0x0a, 0x0d])

/-- Up to a slash, a query or a fragment. -/
def authority (text : List Char) : List Char := text.takeWhile (· ∉ ['/', '?', '#'])

/-- Behind the credentials. -/
def hostText (authority : List Char) : List Char := authority.rtakeWhile (· ≠ '@')

/-- From a slash to a query or a fragment. -/
def pathText (text : List Char) : List Char :=
  (text.dropWhile (· ∉ ['/', '?', '#'])).takeWhile (· ∉ ['?', '#'])

/-! ## 3. The segments of a path -/

def isSingleDot (segment : List Char) : Bool :=
  [".".toList, "%2e".toList].contains (segment.map Char.toLower)

def isDoubleDot (segment : List Char) : Bool :=
  ["..".toList, ".%2e".toList, "%2e.".toList, "%2e%2e".toList].contains (segment.map Char.toLower)

/-- Dots at the end leave an empty segment. -/
def addSegment (path : List (List Char)) (segment : List Char) (last : Bool) : List (List Char) :=
  let ending := if last then [[]] else []
  if isDoubleDot segment then path.dropLast ++ ending
  else if isSingleDot segment then path ++ ending
  else path ++ [segment]

def walk (path : List (List Char)) : List (List Char) → List (List Char)
  | [] => path
  | segment :: rest => walk (addSegment path segment rest.isEmpty) rest

/-- The path serializer. -/
def serialise (path : List (List Char)) : List Char := path.flatMap ('/' :: ·)

def standardPath (caret : Bool) (text : List Char) : List Char :=
  match pathText (cleaned text) with
  | [] => []
  | _ :: rest => serialise (walk [] ((encode (pathSet caret) rest).splitOn '/'))

/-- Empty without a host. -/
def standardHost (text : List Char) : List Char :=
  encode controlSet (hostText (authority (cleaned text)))

/-! ## 4. What the walk leaves -/

/-- One of the segments that stand for none. -/
def Dotted (segment : List Char) : Prop := isDoubleDot segment = true ∨ isSingleDot segment = true

instance (segment : List Char) : Decidable (Dotted segment) := inferInstanceAs (Decidable (_ ∨ _))

section Walk

variable {path segments : List (List Char)} {segment text : List Char} {last : Bool} {c : Char}

@[simp] theorem serialise_nil : serialise [] = [] := rfl

@[simp] theorem serialise_append (path path' : List (List Char)) :
    serialise (path ++ path') = serialise path ++ serialise path' :=
  List.flatMap_append

@[simp] theorem length_serialise_cons (segment : List Char) (path : List (List Char)) :
    (serialise (segment :: path)).length = segment.length + 1 + (serialise path).length := by
  rw [serialise, List.flatMap_cons, List.length_append]
  rfl

theorem serialise_head (h : serialise path ≠ []) : (serialise path).head? = some '/' := by
  cases path with
  | nil => exact absurd rfl h
  | cons segment rest => rfl

theorem mem_serialise (h : c ∈ serialise path) : c = '/' ∨ ∃ segment ∈ path, c ∈ segment := by
  obtain ⟨segment, hsegment, hc⟩ := List.mem_flatMap.mp h
  rcases List.mem_cons.mp hc with rfl | hc
  · exact Or.inl rfl
  · exact Or.inr ⟨segment, hsegment, hc⟩

/-- **The serializer puts a text together that was split.** -/
theorem serialise_splitOn (text : List Char) : serialise (text.splitOn '/') = '/' :: text := by
  have hcons : ∀ segments : List (List Char), segments ≠ [] →
      serialise segments = '/' :: ['/'].intercalate segments := by
    intro segments hne
    induction segments with
    | nil => exact absurd rfl hne
    | cons first rest ih =>
        cases rest with
        | nil => simp [serialise]
        | cons second rest =>
            have hrest := ih (List.cons_ne_nil _ _)
            unfold serialise at hrest ⊢
            rw [List.flatMap_cons, hrest, List.intercalate_cons_cons]
            simp
  rw [hcons _ (List.splitOn_ne_nil _ _), List.intercalate_splitOn]

theorem mem_splitOn (hsegment : segment ∈ text.splitOn '/') (hc : c ∈ segment) :
    c = '/' ∨ c ∈ text := by
  have hmem : c ∈ serialise (text.splitOn '/') :=
    List.mem_flatMap.mpr ⟨segment, hsegment, List.mem_cons_of_mem _ hc⟩
  rw [serialise_splitOn] at hmem
  exact List.mem_cons.mp hmem

theorem Dotted.length_pos (h : Dotted segment) : 0 < segment.length := by
  cases segment with
  | nil => exact absurd h (by decide)
  | cons c rest => exact Nat.succ_pos _

theorem length_dropLast_le (path : List (List Char)) :
    (serialise path.dropLast).length ≤ (serialise path).length :=
  ((List.dropLast_sublist path).flatMap _).length_le

/-- A dotted segment takes more away than it leaves. -/
theorem length_addSegment_of_dotted (path : List (List Char)) (h : Dotted segment) (last : Bool) :
    (serialise (addSegment path segment last)).length <
      (serialise path).length + (segment.length + 1) := by
  have hpos := h.length_pos
  have hdrop := length_dropLast_le path
  have hending : (serialise (if last then [[]] else [])).length ≤ 1 := by
    cases last <;> decide
  unfold addSegment
  dsimp only
  split
  · rw [serialise_append, List.length_append]
    omega
  · rename_i hdouble
    rw [if_pos (h.resolve_left hdouble), serialise_append, List.length_append]
    omega

theorem addSegment_of_not_dotted (h : ¬ Dotted segment) :
    addSegment path segment last = path ++ [segment] := by
  unfold addSegment
  rw [if_neg fun hdouble => h (Or.inl hdouble), if_neg fun hsingle => h (Or.inr hsingle)]

theorem length_addSegment_le (path : List (List Char)) (segment : List Char) (last : Bool) :
    (serialise (addSegment path segment last)).length ≤
      (serialise path).length + (segment.length + 1) := by
  by_cases h : Dotted segment
  · exact Nat.le_of_lt (length_addSegment_of_dotted path h last)
  · rw [addSegment_of_not_dotted h, serialise_append, List.length_append, length_serialise_cons]
    exact Nat.le_refl _

theorem mem_addSegment {other : List Char} (h : other ∈ addSegment path segment last) :
    other = [] ∨ other ∈ path ∨ other = segment := by
  have hending : other ∈ (if last then [[]] else [] : List (List Char)) → other = [] := by
    cases last <;> simp
  unfold addSegment at h
  dsimp only at h
  split at h
  · rcases List.mem_append.mp h with h | h
    · exact Or.inr (Or.inl (List.dropLast_subset _ h))
    · exact Or.inl (hending h)
  · split at h
    · rcases List.mem_append.mp h with h | h
      · exact Or.inr (Or.inl h)
      · exact Or.inl (hending h)
    · rcases List.mem_append.mp h with h | h
      · exact Or.inr (Or.inl h)
      · exact Or.inr (Or.inr (List.mem_singleton.mp h))

/-- **No walk makes a path longer.** -/
theorem length_walk_le (path segments : List (List Char)) :
    (serialise (walk path segments)).length ≤
      (serialise path).length + (serialise segments).length := by
  induction segments generalizing path with
  | nil => exact Nat.le_refl _
  | cons segment rest ih =>
      have hstep := length_addSegment_le path segment rest.isEmpty
      have hrest := ih (addSegment path segment rest.isEmpty)
      rw [length_serialise_cons, walk]
      omega

/-- **A dot on the way makes it shorter.** -/
theorem length_walk_lt (path : List (List Char)) (hmem : segment ∈ segments) (h : Dotted segment) :
    (serialise (walk path segments)).length <
      (serialise path).length + (serialise segments).length := by
  induction segments generalizing path with
  | nil => cases hmem
  | cons first rest ih =>
      rw [length_serialise_cons, walk]
      rcases List.mem_cons.mp hmem with rfl | hmem
      · have hstep := length_addSegment_of_dotted path h rest.isEmpty
        have hrest := length_walk_le (addSegment path segment rest.isEmpty) rest
        omega
      · have hstep := length_addSegment_le path first rest.isEmpty
        have hrest := ih (addSegment path first rest.isEmpty) hmem
        omega

/-- **Without dots, a walk takes the segments as they are.** -/
theorem walk_of_not_dotted (h : ∀ segment ∈ segments, ¬ Dotted segment) :
    walk path segments = path ++ segments := by
  induction segments generalizing path with
  | nil => exact (List.append_nil path).symm
  | cons first rest ih =>
      rw [walk, addSegment_of_not_dotted (h first List.mem_cons_self),
        ih fun segment hsegment => h segment (List.mem_cons_of_mem _ hsegment),
        List.append_assoc]
      rfl

theorem mem_walk (h : segment ∈ walk path segments) :
    segment = [] ∨ segment ∈ path ∨ segment ∈ segments := by
  induction segments generalizing path with
  | nil => exact Or.inr (Or.inl h)
  | cons first rest ih =>
      rcases ih h with h | h | h
      · exact Or.inl h
      · rcases mem_addSegment h with h | h | rfl
        · exact Or.inl h
        · exact Or.inr (Or.inl h)
        · exact Or.inr (Or.inr List.mem_cons_self)
      · exact Or.inr (Or.inr (List.mem_cons_of_mem _ h))

end Walk

/-! ## 5. The texts that are their own path -/

section Parts

variable {text : List Char}

theorem cleaned_sublist (text : List Char) : (cleaned text).Sublist text :=
  List.filter_sublist.trans (List.rdropWhile_prefix _ _).sublist

theorem pathText_sublist (text : List Char) : (pathText text).Sublist text :=
  (List.takeWhile_sublist _).trans (List.dropWhile_sublist _)

theorem cleaned_eq_self (hplain : ∀ c ∈ text, controlSet c = false)
    (hlast : text.getLast? ≠ some ' ') : cleaned text = text := by
  have hlow : ∀ c ∈ text, ¬ c.toNat < 0x20 := by
    intro c hc hlt
    have hcontrol := hplain c hc
    rw [controlSet, decide_eq_true hlt] at hcontrol
    cases hcontrol
  have hend : text.rdropWhile (·.toNat ≤ 0x20) = text := by
    refine List.rdropWhile_eq_self_iff.mpr fun hne hle => hlast ?_
    have hspace : text.getLast hne = ' ' := by
      have hge := hlow _ (List.getLast_mem hne)
      have hle := of_decide_eq_true hle
      exact Char.toNat_inj.mp (Nat.le_antisymm hle (Nat.not_lt.mp hge))
    rw [List.getLast?_eq_some_getLast hne, hspace]
  unfold cleaned
  rw [hend, List.filter_eq_self]
  intro c hc
  have hge := hlow c hc
  simp only [List.mem_cons, List.not_mem_nil, or_false, decide_eq_true_eq]
  omega

end Parts

/-- **A text that is its own path**: it begins with a slash, no character of it is escaped, and no
    segment is one or two dots. -/
structure OwnPath (caret : Bool) (text : List Char) : Prop where
  absolute : text.head? = some '/'
  plain : ∀ c ∈ text, pathSet caret c = false
  straight : ∀ segment ∈ text.splitOn '/', ¬ Dotted segment

section Path

variable {caret : Bool} {text rest : List Char} {c : Char}

theorem standardPath_head (h : standardPath caret text ≠ []) :
    (standardPath caret text).head? = some '/' := by
  unfold standardPath at h ⊢
  split at h
  · exact absurd rfl h
  · exact serialise_head h

/-- What a path is written with. -/
theorem mem_standardPath (h : c ∈ standardPath caret text) :
    c = '/' ∨ c ∈ percentChars ∨ (c ∈ text ∧ pathSet caret c = false) := by
  unfold standardPath at h
  split at h
  · cases h
  · rename_i first rest hpath
    rcases mem_serialise h with rfl | ⟨segment, hsegment, hc⟩
    · exact Or.inl rfl
    · rcases mem_walk hsegment with rfl | hsegment | hsegment
      · cases hc
      · cases hsegment
      · rcases mem_splitOn hsegment hc with rfl | hc
        · exact Or.inl rfl
        · refine Or.inr ((mem_encode hc).imp_right fun ⟨hrest, hset⟩ => ⟨?_, hset⟩)
          have hmem : c ∈ pathText (cleaned text) := hpath ▸ List.mem_cons_of_mem _ hrest
          exact (cleaned_sublist text).mem ((pathText_sublist _).mem hmem)

theorem pathSet_of_mem_standardPath (h : c ∈ standardPath caret text) :
    pathSet caret c = false := by
  rcases mem_standardPath h with rfl | h | ⟨_, h⟩
  · exact pathSet_slash caret
  · exact pathSet_percentChars caret c h
  · exact h

/-- Without escapes, a path is no longer than the text that it is made of. -/
theorem length_standardPath_le (h : ∀ c ∈ text, pathSet caret c = false) :
    (standardPath caret text).length ≤ text.length := by
  unfold standardPath
  split
  · exact Nat.zero_le _
  · rename_i first rest hpath
    have hsub : (first :: rest).Sublist text :=
      hpath ▸ (pathText_sublist _).trans (cleaned_sublist text)
    have hencode : encode (pathSet caret) rest = rest :=
      encode_eq_self fun c hc => h c (hsub.mem (List.mem_cons_of_mem _ hc))
    have hwalk := length_walk_le [] (rest.splitOn '/')
    rw [serialise_splitOn, serialise_nil, List.length_nil, Nat.zero_add] at hwalk
    rw [hencode]
    exact hwalk.trans hsub.length_le

/-- The path of a text in which only dots can change. -/
theorem standardPath_slash (h : ∀ c ∈ '/' :: rest, pathSet caret c = false) :
    standardPath caret ('/' :: rest) = serialise (walk [] (rest.splitOn '/')) := by
  have hcontrol : ∀ c ∈ '/' :: rest, controlSet c = false := by
    intro c hc
    have hset := h c hc
    simp only [pathSet, Bool.or_eq_false_iff] at hset
    exact hset.1.1
  have hsign : ∀ c ∈ '/' :: rest, c ∉ [' ', '?', '#'] := by
    intro c hc hmem
    have hset := h c hc
    rw [pathSet_signs caret c hmem] at hset
    cases hset
  have hclean : cleaned ('/' :: rest) = '/' :: rest :=
    cleaned_eq_self hcontrol fun hlast =>
      hsign ' ' (List.mem_of_getLast? hlast) List.mem_cons_self
  have hpath : pathText ('/' :: rest) = '/' :: rest := by
    unfold pathText
    rw [List.dropWhile_cons_of_neg (by decide), List.takeWhile_eq_self_iff]
    intro c hc
    exact decide_eq_true fun hmem => hsign c hc (List.mem_cons_of_mem _ hmem)
  unfold standardPath
  rw [hclean, hpath]
  dsimp only
  rw [encode_eq_self fun c hc => h c (List.mem_cons_of_mem _ hc)]

/-- **Exactly these texts are their own path**: what a path has of another one is escaped, or
    shorter. The empty path is the one of many texts. -/
theorem standardPath_eq_self_iff (hne : text ≠ []) :
    standardPath caret text = text ↔ OwnPath caret text := by
  constructor
  · intro hpath
    have habsolute : text.head? = some '/' := by
      rw [← hpath] at hne ⊢
      exact standardPath_head hne
    have hplain : ∀ c ∈ text, pathSet caret c = false := fun c hc =>
      pathSet_of_mem_standardPath (hpath.symm ▸ hc)
    refine ⟨habsolute, hplain, fun segment hsegment hdotted => ?_⟩
    obtain ⟨rest, rfl⟩ := List.head?_eq_some_iff.mp habsolute
    rw [standardPath_slash hplain] at hpath
    -- the segment before the first slash is empty
    have hmem : segment ∈ rest.splitOn '/' := by
      rw [List.splitOn_cons_eq_if_modifyHead, if_pos (beq_self_eq_true '/')] at hsegment
      rcases List.mem_cons.mp hsegment with rfl | hsegment
      · exact absurd hdotted (by decide)
      · exact hsegment
    have hlt := length_walk_lt [] hmem hdotted
    rw [hpath, serialise_splitOn, serialise_nil, List.length_nil, Nat.zero_add] at hlt
    exact absurd hlt (Nat.lt_irrefl _)
  · intro h
    obtain ⟨rest, rfl⟩ := List.head?_eq_some_iff.mp h.absolute
    have hstraight : ∀ segment ∈ rest.splitOn '/', ¬ Dotted segment := fun segment hsegment =>
      h.straight segment (by
        rw [List.splitOn_cons_eq_if_modifyHead, if_pos (beq_self_eq_true '/')]
        exact List.mem_cons_of_mem _ hsegment)
    rw [standardPath_slash h.plain, walk_of_not_dotted hstraight, List.nil_append,
      serialise_splitOn]

end Path

/-! ## 6. The texts that are their own host -/

/-- **A text that is its own host**: no slash, query, fragment or credentials, no character that is
    escaped, and no space at its end. -/
structure OwnHost (text : List Char) : Prop where
  plain : ∀ c ∈ text, controlSet c = false
  bare : ∀ c ∈ text, c ∉ ['/', '?', '#', '@']
  ended : text.getLast? ≠ some ' '

section Host

variable {caret : Bool} {text : List Char}

theorem authority_eq_self_iff : authority text = text ↔ ∀ c ∈ text, c ∉ ['/', '?', '#'] := by
  unfold authority
  rw [List.takeWhile_eq_self_iff]
  simp only [decide_eq_true_eq]

theorem hostText_eq_self_iff : hostText text = text ↔ ∀ c ∈ text, c ≠ '@' := by
  unfold hostText
  rw [List.rtakeWhile_eq_self_iff]
  simp only [decide_eq_true_eq]

theorem getLast?_of_cleaned (h : cleaned text = text) : text.getLast? ≠ some ' ' := by
  have hend : text.rdropWhile (·.toNat ≤ 0x20) = text := by
    refine (List.rdropWhile_prefix _ _).sublist.antisymm ?_
    have hsub : (cleaned text).Sublist (text.rdropWhile (·.toNat ≤ 0x20)) := List.filter_sublist
    rwa [h] at hsub
  intro hlast
  have hne : text ≠ [] := by
    rintro rfl
    cases hlast
  rw [List.getLast?_eq_some_getLast hne] at hlast
  refine List.rdropWhile_eq_self_iff.mp hend hne ?_
  rw [Option.some.inj hlast]
  decide

theorem OwnHost.authority_eq (h : OwnHost text) : authority (cleaned text) = text := by
  rw [cleaned_eq_self h.plain h.ended]
  refine authority_eq_self_iff.mpr fun c hc hmem => h.bare c hc ?_
  exact (List.prefix_append ['/', '?', '#'] ['@']).subset hmem

/-- **Exactly these texts are their own host.** -/
theorem standardHost_eq_self_iff : standardHost text = text ↔ OwnHost text := by
  constructor
  · intro hhost
    have hplain : ∀ c ∈ text, controlSet c = false := by
      intro c hc
      rw [← hhost] at hc
      rcases mem_encode hc with hc | ⟨_, hset⟩
      · exact controlSet_percentChars c hc
      · exact hset
    have hclean : (cleaned text).Sublist text := cleaned_sublist text
    have hauthority : (authority (cleaned text)).Sublist (cleaned text) :=
      List.takeWhile_sublist _
    have hbehind : (hostText (authority (cleaned text))).Sublist (authority (cleaned text)) :=
      (List.rtakeWhile_suffix _ _).sublist
    -- nothing is escaped, so nothing was left out either
    have hwhole : hostText (authority (cleaned text)) = text := by
      unfold standardHost at hhost
      rwa [encode_eq_self fun c hc => hplain c
        (hclean.mem (hauthority.mem (hbehind.mem hc)))] at hhost
    rw [hwhole] at hbehind
    have hcleaned : cleaned text = text := hclean.antisymm (hbehind.trans hauthority)
    rw [hcleaned] at hauthority hbehind hwhole
    have hsame : authority text = text := hauthority.antisymm hbehind
    rw [hsame] at hwhole
    refine ⟨hplain, fun c hc hmem => ?_, getLast?_of_cleaned hcleaned⟩
    rcases List.mem_append.mp (show c ∈ ['/', '?', '#'] ++ ['@'] from hmem) with hmem | hmem
    · exact authority_eq_self_iff.mp hsame c hc hmem
    · exact hostText_eq_self_iff.mp hwhole c hc (List.mem_singleton.mp hmem)
  · intro h
    have hhost : hostText text = text := by
      refine hostText_eq_self_iff.mpr fun c hc heq => h.bare c hc ?_
      rw [heq]
      decide
    unfold standardHost
    rw [h.authority_eq, hhost, encode_eq_self h.plain]

/-- Behind a host of this kind there is no path. -/
theorem standardPath_of_ownHost (h : OwnHost text) : standardPath caret text = [] := by
  have hpath : pathText (cleaned text) = [] := by
    have hauthority := h.authority_eq
    rw [cleaned_eq_self h.plain h.ended] at hauthority ⊢
    have hnone : text.dropWhile (· ∉ ['/', '?', '#']) = [] :=
      List.dropWhile_eq_nil_iff.mpr fun c hc =>
        decide_eq_true (authority_eq_self_iff.mp hauthority c hc)
    unfold pathText
    rw [hnone]
    rfl
  unfold standardPath
  rw [hpath]

end Host

end UrlStandard
end Lib
