/-
  File:      MavlinkServer/Lib/JsonPointer.lean
  Subject:   JSON POINTERS (RFC 6901): a path of tokens written as one text, each
             token after a slash, with the slashes and tildes in it escaped.
             Nothing here names a program.

  * `Value` -- values over any type of scalars; an object is the function that
    looks a member up;
  * `Value.walk` -- the value that a list of tokens leads to;
  * `Value.pointer` -- the value that a text leads to;
  * `render` -- the text of a list of tokens;
  * **`pointer_render`** -- the text of the tokens leads where they lead.
-/
import Mathlib.Tactic.Common

namespace Lib

variable {α : Type}

/-! ## 1. Values and tokens -/

inductive Value (α : Type) where
  | scalar (a : α)
  | array (items : List (Value α))
  | object (members : String → Option (Value α))

/-- The digits of an index, to the machine word. -/
def parseDigits : Nat → List Char → Option Nat
  | n, [] => some n
  | n, c :: rest =>
      if c.isDigit ∧ 10 * n + (c.toNat - 48) < 2 ^ 64 then
        parseDigits (10 * n + (c.toNat - 48)) rest
      else none

/-- An index has no sign, and starts with a zero only if it is one. -/
def parseIndex (token : List Char) : Option Nat :=
  if token.head? = some '+' ∨ (token.head? = some '0' ∧ token.length ≠ 1) ∨ token = [] then none
  else parseDigits 0 token

/-- One token down. -/
def Value.child (value : Value α) (token : String) : Option (Value α) :=
  match value with
  | .object members => members token
  | .array items => (parseIndex token.toList).bind fun i => items[i]?
  | .scalar _ => none

def Value.walk (value : Value α) (tokens : List String) : Option (Value α) :=
  tokens.foldlM Value.child value

@[simp] theorem Value.walk_nil (value : Value α) : value.walk [] = some value := rfl

@[simp] theorem Value.walk_cons (value : Value α) (token : String) (tokens : List String) :
    value.walk (token :: tokens) = (value.child token).bind fun value => value.walk tokens := rfl

@[simp] theorem Value.child_object (members : String → Option (Value α)) (token : String) :
    (Value.object members).child token = members token := rfl

/-! ## 2. Texts -/

/-- Each pair of `a` and `b`, from the left, is replaced by `c`. -/
def replacePair (a b c : Char) : List Char → List Char
  | x :: y :: rest =>
      if x = a ∧ y = b then c :: replacePair a b c rest else x :: replacePair a b c (y :: rest)
  | rest => rest

/-- First the slashes, then the tildes: in the other order "~01" would be read as a slash. -/
def unescape (token : List Char) : String :=
  String.ofList (replacePair '~' '0' '~' (replacePair '~' '1' '/' token))

/-- A text is empty or starts with a slash. -/
def Value.pointer (value : Value α) (path : String) : Option (Value α) :=
  match path.toList with
  | [] => some value
  | '/' :: rest => value.walk ((rest.splitOn '/').map unescape)
  | _ => none

def escapeChar : Char → List Char
  | '~' => ['~', '0']
  | '/' => ['~', '1']
  | c => [c]

def escape (token : String) : List Char := token.toList.flatMap escapeChar

/-- The text of a list of tokens. -/
def render (tokens : List String) : String :=
  String.ofList (tokens.flatMap fun token => '/' :: escape token)

/-! ## 3. The text leads where the tokens lead -/

theorem replacePair_of_ne {a b c x : Char} (h : x ≠ a) (rest : List Char) :
    replacePair a b c (x :: rest) = x :: replacePair a b c rest := by
  cases rest with
  | nil => rfl
  | cons y rest => rw [replacePair, if_neg fun hx => h hx.1]

theorem replacePair_hit (a b c : Char) (rest : List Char) :
    replacePair a b c (a :: b :: rest) = c :: replacePair a b c rest := by
  rw [replacePair, if_pos ⟨rfl, rfl⟩]

/-- A tilde with another character behind it stays. -/
theorem replacePair_miss {a b c y : Char} (hy : y ≠ b) (hya : y ≠ a) (rest : List Char) :
    replacePair a b c (a :: y :: rest) = a :: y :: replacePair a b c rest := by
  rw [replacePair, if_neg fun hx => hy hx.2, replacePair_of_ne hya]

/-- What the first replacement leaves: the tildes are still escaped. -/
def halfEscapeChar : Char → List Char
  | '~' => ['~', '0']
  | c => [c]

theorem replacePair_escape (token : List Char) :
    replacePair '~' '1' '/' (token.flatMap escapeChar) = token.flatMap halfEscapeChar := by
  induction token with
  | nil => rfl
  | cons c token ih =>
      rw [List.flatMap_cons, List.flatMap_cons]
      by_cases htilde : c = '~'
      · subst htilde
        show replacePair '~' '1' '/' ('~' :: '0' :: token.flatMap escapeChar) = _
        rw [replacePair_miss (by decide) (by decide), ih]
        rfl
      · by_cases hslash : c = '/'
        · subst hslash
          show replacePair '~' '1' '/' ('~' :: '1' :: token.flatMap escapeChar) = _
          rw [replacePair_hit, ih]
          rfl
        · have hescape : escapeChar c = [c] := by
            unfold escapeChar
            split <;> simp_all
          have hhalf : halfEscapeChar c = [c] := by
            unfold halfEscapeChar
            split <;> simp_all
          rw [hescape, hhalf, List.singleton_append, List.singleton_append,
            replacePair_of_ne htilde, ih]

theorem replacePair_halfEscape (token : List Char) :
    replacePair '~' '0' '~' (token.flatMap halfEscapeChar) = token := by
  induction token with
  | nil => rfl
  | cons c token ih =>
      rw [List.flatMap_cons]
      by_cases htilde : c = '~'
      · subst htilde
        show replacePair '~' '0' '~' ('~' :: '0' :: token.flatMap halfEscapeChar) = _
        rw [replacePair_hit, ih]
      · have hhalf : halfEscapeChar c = [c] := by
          unfold halfEscapeChar
          split <;> simp_all
        rw [hhalf, List.singleton_append, replacePair_of_ne htilde, ih]

@[simp] theorem unescape_escape (token : String) : unescape (escape token) = token := by
  rw [unescape, escape, replacePair_escape, replacePair_halfEscape, String.ofList_toList]

/-- No slash is left in an escaped token. -/
theorem slash_not_mem_escape (token : String) : '/' ∉ escape token := by
  intro hmem
  obtain ⟨c, _, hc⟩ := List.mem_flatMap.mp hmem
  unfold escapeChar at hc
  split at hc
  · simp at hc
  · simp at hc
  · rename_i hslash
    exact hslash (List.mem_singleton.mp hc).symm

/-- **The text of the tokens leads where they lead.** -/
theorem Value.pointer_render (value : Value α) (tokens : List String) :
    value.pointer (render tokens) = value.walk tokens := by
  cases tokens with
  | nil => rfl
  | cons token tokens =>
      have hjoin : ∀ tokens : List String,
          (escape token ++ tokens.flatMap fun token => '/' :: escape token) =
            ['/'].intercalate ((token :: tokens).map escape) := by
        intro tokens
        induction tokens generalizing token with
        | nil => simp
        | cons next tokens ih =>
            rw [List.map_cons, List.map_cons, List.intercalate_cons_cons, List.flatMap_cons,
              ← List.map_cons, ← ih next]
            simp
      have htext : (render (token :: tokens)).toList =
          '/' :: ['/'].intercalate ((token :: tokens).map escape) := by
        rw [render, String.toList_ofList, List.flatMap_cons, List.cons_append, hjoin]
      unfold pointer
      rw [htext]
      show value.walk (((['/'].intercalate ((token :: tokens).map escape)).splitOn '/').map
        unescape) = _
      rw [List.splitOn_intercalate '/' ?_ (by simp), List.map_map]
      · congr 1
        exact (List.map_congr_left fun token _ => unescape_escape token).trans (List.map_id _)
      · intro escaped hmem
        obtain ⟨token, _, rfl⟩ := List.mem_map.mp hmem
        exact slash_not_mem_escape token

end Lib
