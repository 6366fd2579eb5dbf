/-
  File:      MavlinkServer/Ftp/Navigation.lean
  Subject:   WHERE THE FTP TAB STANDS (`src/webpage/src/tabs/mavftp.rs`). The tab
             keeps the directory it shows as one text and edits this text; what
             is meant is a stack of names.

  * `DirName` -- a name that can stand in a path: not empty, no slash in it,
    neither `.` nor `..`;
  * `pathOf` -- the text of a stack;
  * `Move`, `MavFtpTab.move`, `Move.onStack` -- what the user can do, as the tab
    does it and as it is meant;
  * `moves_refine` -- after any moves the text is that of the stack.
-/
import MavlinkServer.Ftp.Paging
import MavlinkServer.Ftp.Page

namespace MavlinkServer.Ftp

open Lib

/-! ## 1. Stacks of names -/

structure DirName where
  bytes : List UInt8
  ne_nil : bytes ≠ []
  noSlash : 47 ∉ bytes
  ne_dot : bytes ≠ [46]
  ne_dotDot : bytes ≠ [46, 46]

/-- Every name behind a slash. -/
def textOf (stack : List DirName) : List UInt8 := stack.flatMap fun name => 47 :: name.bytes

/-- The root is a slash of its own. -/
def pathOf (stack : List DirName) : List UInt8 := if stack.isEmpty then [47] else textOf stack

section Paths

variable {stack : List DirName} {name : DirName}

theorem textOf_concat (stack : List DirName) (name : DirName) :
    textOf (stack ++ [name]) = textOf stack ++ 47 :: name.bytes := by
  simp [textOf]

theorem pathOf_concat (stack : List DirName) (name : DirName) :
    pathOf (stack ++ [name]) = textOf stack ++ 47 :: name.bytes := by
  simp [pathOf, textOf_concat]

theorem textOf_eq_nil : textOf stack = [] ↔ stack = [] := by
  cases stack <;> simp [textOf]

/-- A text that ends in a name ends in no slash. -/
theorem trimEndSlashes_name (pre : List UInt8) (name : DirName) :
    trimEndSlashes (pre ++ 47 :: name.bytes) = pre ++ 47 :: name.bytes := by
  unfold trimEndSlashes
  rw [List.rdropWhile_eq_self_iff]
  intro hne
  have hlast : (pre ++ 47 :: name.bytes).getLast hne = name.bytes.getLast name.ne_nil := by
    rw [List.getLast_append_of_ne_nil hne (List.cons_ne_nil _ _), List.getLast_cons name.ne_nil]
  rw [hlast]
  have hmem := List.getLast_mem name.ne_nil
  intro heq
  rw [beq_iff_eq] at heq
  exact name.noSlash (heq ▸ hmem)

theorem trimEndSlashes_pathOf (stack : List DirName) :
    trimEndSlashes (pathOf stack) = textOf stack := by
  rcases List.eq_nil_or_concat stack with rfl | ⟨front, name, rfl⟩
  · rfl
  · rw [List.concat_eq_append, pathOf_concat, trimEndSlashes_name, textOf_concat]

/-- **Joining a name is pushing it.** -/
theorem joinPath_pathOf (stack : List DirName) (name : DirName) :
    joinPath (pathOf stack) name.bytes = pathOf (stack ++ [name]) := by
  unfold joinPath
  rw [trimEndSlashes_pathOf, pathOf_concat]
  dsimp only
  split
  · rename_i hempty
    rw [List.isEmpty_iff.mp hempty]
    rfl
  · rfl

theorem rfind_none {sep : UInt8} : ∀ {text : List UInt8}, sep ∉ text → rfind sep text = none
  | [], _ => rfl
  | b :: rest, h => by
      have hb : b ≠ sep := fun hb => h (hb ▸ List.mem_cons_self)
      rw [rfind, rfind_none fun hmem => h (List.mem_cons_of_mem _ hmem)]
      exact if_neg hb

/-- The last separator is the one with none behind it. -/
theorem rfind_append {sep : UInt8} {post : List UInt8} (h : sep ∉ post) :
    ∀ pre : List UInt8, rfind sep (pre ++ sep :: post) = some pre.length
  | [] => by
      rw [List.nil_append, rfind, rfind_none h]
      exact if_pos rfl
  | b :: pre => by
      rw [List.cons_append, rfind, rfind_append h pre]
      rfl

/-- **The parent of a path is the stack without its last name.** -/
theorem parentPath_pathOf (stack : List DirName) :
    parentPath (pathOf stack) = pathOf stack.dropLast := by
  rcases List.eq_nil_or_concat stack with rfl | ⟨front, name, rfl⟩
  · rfl
  · rw [List.concat_eq_append, List.dropLast_concat]
    unfold parentPath
    rw [trimEndSlashes_pathOf, textOf_concat]
    dsimp only
    rw [rfind_append name.noSlash]
    dsimp only
    rw [List.take_left]
    simp only [List.isEmpty_iff, textOf_eq_nil, pathOf]

theorem splitOn_textOf (stack : List DirName) :
    splitOn 47 (textOf stack) = [] :: stack.map DirName.bytes := by
  induction stack with
  | nil => rfl
  | cons name stack ih =>
      have hshape : textOf (name :: stack) = [] ++ 47 :: (name.bytes ++ textOf stack) := rfl
      cases stack with
      | nil =>
          rw [hshape, splitOn_append, textOf, List.flatMap_nil, List.append_nil,
            splitOn_of_not_mem name.noSlash]
          rfl
      | cons next stack =>
          have htext : textOf (next :: stack) = 47 :: (next.bytes ++ textOf stack) := rfl
          rw [htext] at ih
          rw [hshape, splitOn_append, htext, splitOn_append, splitOn_of_not_mem name.noSlash]
          rw [splitOn, if_pos rfl] at ih
          rw [List.tail_eq_of_cons_eq ih]
          rfl

theorem parts_pathOf (stack : List DirName) :
    ((splitOn 47 (pathOf stack)).filter fun part => !part.isEmpty) = stack.map DirName.bytes := by
  have hkept : ∀ part ∈ stack.map DirName.bytes, (!part.isEmpty) = true := by
    intro part hpart
    obtain ⟨name, _, rfl⟩ := List.mem_map.mp hpart
    simpa using name.ne_nil
  unfold pathOf
  split
  · rename_i hempty
    rw [List.isEmpty_iff.mp hempty]
    rfl
  · rw [splitOn_textOf, List.filter_cons_of_neg (by simp), List.filter_eq_self.mpr hkept]

/-- The buttons behind a front part. -/
theorem breadcrumbsFrom_textOf (i : Nat) : ∀ (front rest : List DirName),
    (breadcrumbsFrom (textOf front) (rest.map DirName.bytes))[i]? =
      rest[i]?.map fun name => (name.bytes, pathOf (front ++ rest.take (i + 1))) := by
  induction i with
  | zero =>
      intro front rest
      cases rest with
      | nil => rfl
      | cons name rest =>
          simp only [List.map_cons, breadcrumbsFrom, List.getElem?_cons_zero, Option.map_some,
            List.take_succ_cons, List.take_zero, pathOf_concat]
  | succ i ih =>
      intro front rest
      cases rest with
      | nil => rfl
      | cons name rest =>
          have hnext := ih (front ++ [name]) rest
          rw [textOf_concat, List.append_assoc] at hnext
          exact hnext

/-- **Button `i` shows name `i` and leads to it.** -/
theorem breadcrumbs_pathOf (stack : List DirName) (i : Nat) :
    (breadcrumbs (pathOf stack))[i]? =
      stack[i]?.map fun name => (name.bytes, pathOf (stack.take (i + 1))) := by
  unfold breadcrumbs
  rw [parts_pathOf]
  exact breadcrumbsFrom_textOf i [] stack

end Paths

/-! ## 2. Moves -/

inductive Move where
  | selectTarget (target : Target)
  /-- the button of the root -/
  | root
  /-- button `i` of the path -/
  | crumb (i : Nat)
  /-- the link `..` of a listing -/
  | up
  /-- the link `.` -/
  | stay
  | down (name : DirName)

def MavFtpTab.move (tab : MavFtpTab) : Move → MavFtpTab
  | .selectTarget target => tab.selectTarget target
  | .root => tab.navigateTo [47]
  | .crumb i =>
      match (breadcrumbs tab.currentPath)[i]? with
      | some (_, path) => tab.navigateTo path
      | none => tab
  | .up => tab.navigateInto [46, 46]
  | .stay => tab.navigateInto [46]
  | .down name => tab.navigateInto name.bytes

/-- What is meant. -/
def Move.onStack (stack : List DirName) : Move → List DirName
  | .selectTarget _ => []
  | .root => []
  | .crumb i => if i < stack.length then stack.take (i + 1) else stack
  | .up => stack.dropLast
  | .stay => stack
  | .down name => stack ++ [name]

/-- **One move.** -/
theorem move_refines {tab : MavFtpTab} {stack : List DirName} (h : tab.currentPath = pathOf stack)
    (move : Move) : (tab.move move).currentPath = pathOf (move.onStack stack) := by
  cases move with
  | selectTarget target => rfl
  | root => rfl
  | crumb i =>
      simp only [MavFtpTab.move, Move.onStack, h, breadcrumbs_pathOf]
      by_cases hi : i < stack.length
      · rw [if_pos hi, List.getElem?_eq_getElem hi]
        rfl
      · rw [if_neg hi, List.getElem?_eq_none (Nat.le_of_not_lt hi)]
        exact h
  | up =>
      show parentPath tab.currentPath = _
      rw [h, parentPath_pathOf]
      rfl
  | stay => exact h
  | down name =>
      show (tab.navigateInto name.bytes).currentPath = _
      unfold MavFtpTab.navigateInto
      rw [if_neg name.ne_dotDot, if_neg name.ne_dot]
      show joinPath tab.currentPath name.bytes = _
      rw [h, joinPath_pathOf]
      rfl

/-- **The text is the stack**, after any moves: the directory shown is the one that the names
    lead to, `..` takes back the last of them, button `i` of the path shows name `i` and leads
    there, and the path of a row is that of the directory with its name. -/
theorem moves_refine (moves : List Move) (target : Target) :
    (moves.foldl MavFtpTab.move .new).currentPath = pathOf (moves.foldl Move.onStack []) ∧
      (∀ i, (breadcrumbs (moves.foldl MavFtpTab.move .new).currentPath)[i]? =
        (moves.foldl Move.onStack [])[i]?.map fun name =>
          (name.bytes, pathOf ((moves.foldl Move.onStack []).take (i + 1)))) ∧
      ∀ name : DirName,
        (Click.mk target (moves.foldl MavFtpTab.move .new).currentPath name.bytes).path =
          pathOf (moves.foldl Move.onStack [] ++ [name]) := by
  have hpath : ∀ (moves : List Move) (tab : MavFtpTab) (stack : List DirName),
      tab.currentPath = pathOf stack →
      (moves.foldl MavFtpTab.move tab).currentPath = pathOf (moves.foldl Move.onStack stack) := by
    intro moves
    induction moves with
    | nil => exact fun _ _ h => h
    | cons move moves ih => exact fun tab stack h => ih _ _ (move_refines h move)
  have hpath := hpath moves .new [] rfl
  rw [hpath]
  exact ⟨rfl, breadcrumbs_pathOf _, joinPath_pathOf _⟩

end MavlinkServer.Ftp
