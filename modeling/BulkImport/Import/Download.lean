import BulkImport.Store.World
import Mathlib.Data.Nat.Digits

/-!
# Where a downloaded import file is saved

`DownloadFileFromURL` (`format.go`) names the file it downloads after the last element of the
URL's path, or after the `filename` parameter of the reply's `Content-Disposition` header, and
hands the name to `SaveUploadedFile`, which creates `filepath.Join(UploadPath, name_nanos.ext)`.
The lexical functions of `path/filepath` on the way (`Ext`, `Base`, `Clean`, `Join`) are modelled
on characters, for the Unix separator, and containment is stated over the elements `Clean` keeps.

A name without a separator is saved inside the upload directory (`saveUploadedFile_within`), and
the URL's path always gives one. The header's parameter is used as it comes, so a name such as
`../escaped.csv` is saved beside the upload directory, outside it (`disposition_filename_escapes`).
-/

namespace BulkImport

namespace Filepath

/-- `..`, the element that names the parent directory. -/
def dotDot : List Char := ['.', '.']

/-- The elements of a path between its separators, empty ones included. -/
def splitSep : List Char → List (List Char)
  | [] => [[]]
  | c :: cs =>
    if c = '/' then [] :: splitSep cs
    else match splitSep cs with
      | [] => [[c]]
      | e :: es => (c :: e) :: es

/-- Elements joined by the separator, `strings.Join(elems, "/")`. -/
def joinSep : List (List Char) → List Char
  | [] => []
  | [e] => e
  | e :: e' :: es => e ++ '/' :: joinSep (e' :: es)

/-- Whether a path is rooted: it starts with the separator. -/
def rooted (path : List Char) : Bool := path.head? == some '/'

/-- One element of the lexical walk of `filepath.Clean`, over the elements kept so far, last
first: an empty element and `.` are dropped, `..` removes the element before it, is kept at the
start of a relative path and dropped at the root, and any other element is kept. -/
def cleanStep (isRooted : Bool) (kept : List (List Char)) (e : List Char) : List (List Char) :=
  if e = [] ∨ e = ['.'] then kept
  else if e = dotDot then
    match kept with
    | [] => if isRooted then [] else [dotDot]
    | x :: rest => if x = dotDot then dotDot :: kept else rest
  else e :: kept

/-- The elements the walk of `filepath.Clean` keeps of a path, last first. -/
def walk (path : List Char) : List (List Char) := (splitSep path).foldl (cleanStep (rooted path)) []

/-- The elements `filepath.Clean` keeps of a path, in order. -/
def elems (path : List Char) : List (List Char) := (walk path).reverse

/-- `filepath.Clean`: the elements kept, joined, after the separator for a rooted path, and `.`
when nothing is left of a relative path. -/
def clean (path : String) : String :=
  let body := joinSep (elems path.data)
  if rooted path.data then ⟨'/' :: body⟩
  else if body = [] then "." else ⟨body⟩

/-- `filepath.Join`: the elements from the first non-empty one, joined by the separator and
cleaned; the empty path when every element is empty. -/
def join (elem : List String) : String :=
  match elem.dropWhile (· == "") with
  | [] => ""
  | es => clean ("/".intercalate es)

/-- The loop of `filepath.Ext`, over the path's characters from its end, with the characters
passed so far: the suffix from the last `.` of the final element, or the empty string. -/
def extLoop : List Char → List Char → String
  | [], _ => ""
  | c :: cs, seen =>
    if c = '/' then "" else if c = '.' then ⟨'.' :: seen⟩ else extLoop cs (c :: seen)

/-- `filepath.Ext`. -/
def ext (path : String) : String := extLoop path.data.reverse []

/-- `filepath.Base`: the last element of the path, trailing separators dropped; `.` for the empty
path and `/` for a path of separators only. -/
def base (path : String) : String :=
  if path = "" then "."
  else
    let last := ((path.data.reverse.dropWhile (· == '/')).takeWhile (· != '/')).reverse
    if last = [] then "/" else ⟨last⟩

/-- `path` lies inside the directory `dir`, lexically: the two are both rooted or both relative,
and of the elements `Clean` keeps, those of `dir` begin those of `path`, and what follows them is
not empty and does not climb out with `..`. -/
def Within (dir path : String) : Prop :=
  rooted dir.data = rooted path.data ∧ elems dir.data <+: elems path.data ∧
    (elems path.data).drop (elems dir.data).length ≠ [] ∧
    dotDot ∉ (elems path.data).drop (elems dir.data).length

/-- Whether a path lies inside a directory, decided clause by clause. -/
instance (dir path : String) : Decidable (Within dir path) :=
  inferInstanceAs (Decidable (_ ∧ _ ∧ _ ∧ _))

/-- An element that names an entry of its directory: not empty, not `.` or `..`, and without
the separator. -/
def Single (e : List Char) : Prop := e ≠ [] ∧ e ≠ ['.'] ∧ e ≠ dotDot ∧ '/' ∉ e

/-! ## Splitting at the separator -/

/-- Every path has at least one element, maybe empty. -/
theorem splitSep_ne_nil : ∀ p, splitSep p ≠ []
  | [] => nofun
  | c :: cs => by
    unfold splitSep
    split_ifs
    · nofun
    · split <;> nofun

/-- Splitting two paths joined by a separator splits each. -/
theorem splitSep_append (b : List Char) :
    ∀ a, splitSep (a ++ '/' :: b) = splitSep a ++ splitSep b
  | [] => by simp [splitSep]
  | c :: a => by
    by_cases hc : c = '/'
    · simp [splitSep, hc, splitSep_append b a]
    · obtain ⟨e, es, he⟩ := List.exists_cons_of_ne_nil (splitSep_ne_nil a)
      have ih : splitSep (a ++ '/' :: b) = e :: es ++ splitSep b := by rw [splitSep_append b a, he]
      rw [List.cons_append, splitSep.eq_2, if_neg hc, ih, splitSep.eq_2, if_neg hc, he]
      rfl

/-- A path without the separator is one element. -/
theorem splitSep_of_not_mem : ∀ {a : List Char}, '/' ∉ a → splitSep a = [a]
  | [], _ => rfl
  | c :: a, h => by
    rw [List.mem_cons, not_or] at h
    simp only [splitSep, if_neg (Ne.symm h.1), splitSep_of_not_mem h.2]

/-- No element of a split path holds the separator. -/
theorem not_mem_of_mem_splitSep : ∀ {p e : List Char}, e ∈ splitSep p → '/' ∉ e
  | [], e, h => by rw [List.mem_singleton.mp h]; exact List.not_mem_nil _
  | c :: cs, e, h => by
    unfold splitSep at h
    split_ifs at h with hc
    · rcases List.mem_cons.mp h with rfl | h
      · exact List.not_mem_nil _
      · exact not_mem_of_mem_splitSep h
    · split at h
      · rw [List.mem_singleton.mp h, List.mem_singleton]
        exact Ne.symm hc
      · rename_i e' es heq
        rcases List.mem_cons.mp h with rfl | h
        · have : '/' ∉ e' :=
            not_mem_of_mem_splitSep (p := cs) (by rw [heq]; exact List.mem_cons_self _ _)
          simpa [Ne.symm hc] using this
        · exact not_mem_of_mem_splitSep (p := cs) (by rw [heq]; exact List.mem_cons_of_mem _ h)

/-- Elements without the separator, at least one, joined and split again, are as they were. -/
theorem splitSep_joinSep :
    ∀ {E : List (List Char)}, E ≠ [] → (∀ e ∈ E, '/' ∉ e) → splitSep (joinSep E) = E
  | [e], _, h => splitSep_of_not_mem (h e (List.mem_singleton_self e))
  | e :: e' :: E, _, h => by
    rw [joinSep, splitSep_append, splitSep_of_not_mem (h e (List.mem_cons_self _ _)),
      splitSep_joinSep (List.cons_ne_nil _ _) fun x hx => h x (List.mem_cons_of_mem _ hx)]
    rfl

/-! ## The walk of `Clean` -/

/-- The elements a walk of `filepath.Clean` has kept, last first: none is empty, `.` or holds the
separator, and below a `..` there is only `..`, which the walk of a rooted path never keeps. -/
def Kept (isRooted : Bool) : List (List Char) → Prop
  | [] => True
  | e :: S => (e ≠ [] ∧ e ≠ ['.'] ∧ '/' ∉ e) ∧ Kept isRooted S ∧
      (e = dotDot → isRooted = false ∧ ∀ x ∈ S, x = dotDot)

variable {r : Bool}

/-- The older elements of a kept list are kept. -/
theorem Kept.of_append : ∀ {A B : List (List Char)}, Kept r (A ++ B) → Kept r B
  | [], _, h => h
  | _ :: _, _, h => Kept.of_append h.2.1

/-- No kept element holds the separator. -/
theorem Kept.not_mem_sep : ∀ {S : List (List Char)}, Kept r S → ∀ e ∈ S, '/' ∉ e
  | [], _, _, he => absurd he (List.not_mem_nil _)
  | _ :: _, h, _, he => (List.mem_cons.mp he).elim (· ▸ h.1.2.2) (h.2.1.not_mem_sep _)

/-- Every step of the walk keeps its invariant. -/
theorem Kept.step {S : List (List Char)} {e : List Char} (hS : Kept r S) (he : '/' ∉ e) :
    Kept r (cleanStep r S e) := by
  have hdd : dotDot ≠ [] ∧ dotDot ≠ ['.'] ∧ '/' ∉ dotDot := by decide
  unfold cleanStep
  by_cases h₀ : e = [] ∨ e = ['.']
  · rwa [if_pos h₀]
  rw [if_neg h₀]
  by_cases h₁ : e = dotDot
  · rw [if_pos h₁]
    rcases S with _ | ⟨x, S⟩
    · cases r
      · exact show Kept false [dotDot] from ⟨hdd, trivial, fun _ => ⟨rfl, nofun⟩⟩
      · trivial
    · dsimp only
      by_cases hx : x = dotDot
      · obtain ⟨hr, hxs⟩ := hS.2.2 hx
        rw [if_pos hx]
        exact ⟨hdd, hS, fun _ => ⟨hr, List.forall_mem_cons.mpr ⟨hx, hxs⟩⟩⟩
      · rw [if_neg hx]
        exact hS.2.1
  · rw [if_neg h₁]
    exact ⟨⟨fun h => h₀ (.inl h), fun h => h₀ (.inr h), he⟩, hS, fun h => absurd h h₁⟩

/-- The walk over elements without the separator keeps its invariant. -/
theorem Kept.fold : ∀ {S es : List (List Char)}, Kept r S → (∀ e ∈ es, '/' ∉ e) →
    Kept r (es.foldl (cleanStep r) S)
  | _, [], hS, _ => hS
  | _, e :: _, hS, h => by
    rw [List.foldl_cons]
    exact Kept.fold (hS.step (h e (List.mem_cons_self _ _)))
      fun x hx => h x (List.mem_cons_of_mem _ hx)

/-- The elements the walk of a path keeps satisfy the invariant. -/
theorem kept_walk (p : List Char) : Kept (rooted p) (walk p) :=
  Kept.fold trivial fun _ => not_mem_of_mem_splitSep

/-- On a kept element the walk keeps it. -/
theorem cleanStep_push {S : List (List Char)} {e : List Char} (h : Kept r (e :: S)) :
    cleanStep r S e = e :: S := by
  obtain ⟨⟨h₀, h₁, -⟩, -, hd⟩ := h
  unfold cleanStep
  rw [if_neg (not_or.mpr ⟨h₀, h₁⟩)]
  by_cases he : e = dotDot
  · obtain ⟨hr, hS⟩ := hd he
    subst he
    rw [if_pos rfl]
    rcases S with _ | ⟨x, S⟩
    · simp [hr]
    · exact if_pos (hS x (List.mem_cons_self _ _))
  · exact if_neg he

/-- Walking elements that would all be kept keeps them all, in front of the rest. -/
theorem fold_push : ∀ {E S : List (List Char)}, Kept r (E.reverse ++ S) →
    E.foldl (cleanStep r) S = E.reverse ++ S
  | [], _, _ => rfl
  | e :: E, S, h => by
    rw [List.reverse_cons, List.append_assoc, List.singleton_append] at h
    rw [List.foldl_cons, cleanStep_push h.of_append, fold_push h, List.reverse_cons,
      List.append_assoc, List.singleton_append]

/-- Walking the elements a walk kept, joined again, keeps them all. -/
theorem foldl_joinSep {E : List (List Char)} (h : Kept r E.reverse) :
    (splitSep (joinSep E)).foldl (cleanStep r) [] = E.reverse := by
  rcases E with _ | ⟨e, E⟩
  · rfl
  · have hsep : ∀ x ∈ e :: E, '/' ∉ x := fun x hx => h.not_mem_sep x (List.mem_reverse.mpr hx)
    have h' : Kept r ((e :: E).reverse ++ []) := by rwa [List.append_nil]
    rw [splitSep_joinSep (List.cons_ne_nil _ _) hsep, fold_push h', List.append_nil]

/-- Elements joined after a non-empty first one without the separator make a relative path. -/
theorem rooted_joinSep {e : List Char} {E : List (List Char)} (h₀ : e ≠ []) (h : '/' ∉ e) :
    rooted (joinSep (e :: E)) = false := by
  obtain ⟨c, e, rfl⟩ := List.exists_cons_of_ne_nil h₀
  have hc : c ≠ '/' := fun hc => h (hc ▸ List.mem_cons_self _ _)
  rcases E with _ | ⟨e', E⟩ <;> simp [rooted, joinSep, hc]

/-- `filepath.Clean` is idempotent on the elements it keeps and keeps a path rooted or relative. -/
theorem elems_clean (p : String) :
    elems (clean p).data = elems p.data ∧ rooted (clean p).data = rooted p.data := by
  have hk := kept_walk p.data
  unfold clean
  cases hr : rooted p.data
  · rw [hr] at hk
    rcases hE : elems p.data with _ | ⟨e, E⟩
    · exact ⟨rfl, rfl⟩
    · have hk' : Kept false (e :: E).reverse := by rwa [← hE, elems, List.reverse_reverse]
      have he := (hk'.not_mem_sep e (List.mem_reverse.mpr (List.mem_cons_self _ _)))
      have hne : Kept false [e] := Kept.of_append (by rwa [List.reverse_cons] at hk')
      have hroot := rooted_joinSep (E := E) hne.1.1 he
      have hbody : joinSep (e :: E) ≠ [] := by cases E <;> simp [joinSep, hne.1.1]
      simp only [if_neg hbody, Bool.false_eq_true, if_false]
      exact ⟨by rw [elems, walk, hroot, foldl_joinSep hk', List.reverse_reverse], hroot⟩
  · rw [hr] at hk
    have hk' : Kept true (elems p.data).reverse := by rwa [elems, List.reverse_reverse]
    simp only [if_true]
    refine ⟨?_, rfl⟩
    show ((splitSep ('/' :: joinSep (elems p.data))).foldl (cleanStep true) []).reverse = _
    rw [splitSep, if_pos rfl, List.foldl_cons]
    exact (congrArg List.reverse (foldl_joinSep hk')).trans (List.reverse_reverse _)

/-! ## A name joined to a directory -/

/-- A path that starts with a non-empty part is rooted as that part is. -/
theorem rooted_append {a : List Char} (b : List Char) (ha : a ≠ []) :
    rooted (a ++ b) = rooted a := by
  obtain ⟨c, a, rfl⟩ := List.exists_cons_of_ne_nil ha
  rfl

/-- A single element is a relative path. -/
theorem rooted_single {u : List Char} (hu : Single u) : rooted u = false := by
  obtain ⟨c, u, rfl⟩ := List.exists_cons_of_ne_nil hu.1
  have hc : c ≠ '/' := fun h => hu.2.2.2 (h ▸ List.mem_cons_self _ _)
  simp [rooted, hc]

/-- The walk keeps a single element. -/
theorem cleanStep_single {S : List (List Char)} {u : List Char} (hu : Single u) :
    cleanStep r S u = u :: S := by
  unfold cleanStep
  rw [if_neg (not_or.mpr ⟨hu.1, hu.2.1⟩), if_neg hu.2.2.1]

/-- The walk of a single element keeps it alone. -/
theorem walk_single {u : List Char} (hu : Single u) : walk u = [u] := by
  rw [walk, splitSep_of_not_mem hu.2.2.2, List.foldl_cons, List.foldl_nil, cleanStep_single hu]

/-- The walk over a directory and then a name keeps the name after the directory's elements. -/
theorem walk_append_single {a u : List Char} (ha : a ≠ []) (hu : Single u) :
    walk (a ++ '/' :: u) = u :: walk a := by
  rw [walk, walk, rooted_append _ ha, splitSep_append, splitSep_of_not_mem hu.2.2.2,
    List.foldl_append, List.foldl_cons, List.foldl_nil, cleanStep_single hu]

/-- The walk over a directory, `..` and a name takes `..` against the directory's elements, then
keeps the name. -/
theorem walk_append_parent {a u : List Char} (ha : a ≠ []) (hu : Single u) :
    walk (a ++ '/' :: (dotDot ++ '/' :: u)) = u :: cleanStep (rooted a) (walk a) dotDot := by
  rw [walk, walk, rooted_append _ ha, splitSep_append, splitSep_append,
    splitSep_of_not_mem (by decide : '/' ∉ dotDot), splitSep_of_not_mem hu.2.2.2,
    List.foldl_append, List.singleton_append, List.foldl_cons, List.foldl_cons, List.foldl_nil,
    cleanStep_single hu]

/-- A relative path of `..` and a name keeps both. -/
theorem walk_parent {u : List Char} (hu : Single u) : walk (dotDot ++ '/' :: u) = [u, dotDot] := by
  have hdd : cleanStep false [] dotDot = [dotDot] := by decide
  have hr : rooted (dotDot ++ '/' :: u) = false := rfl
  rw [walk, hr, splitSep_append,
    splitSep_of_not_mem (by decide : '/' ∉ dotDot), splitSep_of_not_mem hu.2.2.2,
    List.singleton_append, List.foldl_cons, List.foldl_cons, List.foldl_nil]
  exact (cleanStep_single hu).trans (congrArg _ hdd)

/-- `filepath.Join` of a non-empty directory and a name cleans the two joined by the separator. -/
theorem join_pair (a b : String) (ha : a ≠ "") : join [a, b] = clean (a ++ "/" ++ b) := by
  simp [join, ha]
  rfl

/-- `filepath.Join` of the empty directory and a name cleans the name. -/
theorem join_empty (b : String) (hb : b ≠ "") : join ["", b] = clean b := by
  simp [join, hb]
  rfl

/-- The characters of two strings joined by the separator. -/
theorem data_join_sep (a b : String) : (a ++ "/" ++ b).data = a.data ++ '/' :: b.data := by
  simp

/-- A name of a single element, joined to any directory, lies inside it. -/
theorem within_join (dir u : String) (hu : Single u.data) : Within dir (join [dir, u]) := by
  have hcons : ∀ {path : String}, rooted dir.data = rooted path.data →
      elems path.data = elems dir.data ++ [u.data] → Within dir path := fun hr he =>
    ⟨hr, he ▸ List.prefix_append _ _, by rw [he, List.drop_left]; exact List.cons_ne_nil _ _,
      by rw [he, List.drop_left, List.mem_singleton]; exact Ne.symm hu.2.2.1⟩
  by_cases hd : dir = ""
  · subst hd
    obtain ⟨h₁, h₂⟩ := elems_clean u
    rw [join_empty u fun h => hu.1 (h ▸ rfl)]
    exact hcons (by rw [h₂, rooted_single hu]; rfl) (by rw [h₁, elems, walk_single hu]; rfl)
  · have hd' : dir.data ≠ [] := fun h => hd (String.ext h)
    obtain ⟨h₁, h₂⟩ := elems_clean (dir ++ "/" ++ u)
    rw [join_pair _ _ hd]
    refine hcons (by rw [h₂, data_join_sep, rooted_append _ hd']) ?_
    rw [h₁, data_join_sep, elems, walk_append_single hd' hu, List.reverse_cons, elems]

/-- A name that climbs out with `..` and then names a single element does not lie inside the
directory it is joined to, unless the directory is the root, where `..` stays. -/
theorem not_within_join_parent {dir u : String} (hdir : clean dir ≠ "/") (hu : Single u.data) :
    ¬Within dir (join [dir, "../" ++ u]) := by
  rintro ⟨-, -, hne, hdd⟩
  have hpar : ("../" ++ u).data = dotDot ++ '/' :: u.data := by simp [dotDot]
  by_cases hd : dir = ""
  · subst hd
    have hne' : "../" ++ u ≠ "" := fun h => by simpa [hpar, dotDot] using congrArg String.data h
    rw [join_empty _ hne', (elems_clean _).1, hpar] at hdd
    simp only [elems, walk_parent hu] at hdd
    exact hdd (List.mem_cons_self _ _)
  · have hd' : dir.data ≠ [] := fun h => hd (String.ext h)
    rw [join_pair _ _ hd, (elems_clean _).1, data_join_sep, hpar] at hne hdd
    simp only [elems, walk_append_parent hd' hu] at hne hdd
    rcases hS : walk dir.data with _ | ⟨x, R⟩
    · cases hr : rooted dir.data
      · rw [hS, hr] at hdd
        exact hdd (by simp [elems, hS, cleanStep, dotDot])
      · exact hdir (by simp [clean, elems, hS, hr, joinSep])
    · have hstep : cleanStep (rooted dir.data) (x :: R) dotDot =
          if x = dotDot then dotDot :: x :: R else R := by
        unfold cleanStep
        rw [if_neg (by decide), if_pos rfl]
      rw [hS, hstep] at hne hdd
      split_ifs at hne hdd with hx
      · have he : (u.data :: dotDot :: x :: R).reverse = (x :: R).reverse ++ [dotDot, u.data] := by
          simp
        rw [he, List.drop_left] at hdd
        exact hdd (List.mem_cons_self _ _)
      · have he : (u.data :: R).reverse.length ≤ (x :: R).reverse.length := by simp
        exact hne (List.drop_eq_nil_of_le he)

/-! ## `filepath.Ext` -/

/-- The loop of `filepath.Ext` stops at the last separator: what lies before it does not count. -/
theorem extLoop_append_sep {m : List Char} :
    ∀ {l seen : List Char}, '/' ∉ l → extLoop (l ++ '/' :: m) seen = extLoop l seen
  | [], _, _ => by simp [extLoop]
  | c :: l, seen, h => by
    rw [List.mem_cons, not_or] at h
    rw [List.cons_append, extLoop.eq_2, extLoop.eq_2, if_neg (Ne.symm h.1), if_neg (Ne.symm h.1),
      extLoop_append_sep h.2]

/-- What the loop of `filepath.Ext` returns is a suffix of the characters it has passed. -/
theorem extLoop_suffix : ∀ (l seen : List Char), (extLoop l seen).data <:+ l.reverse ++ seen
  | [], _ => List.nil_suffix
  | c :: l, seen => by
    rw [List.reverse_cons, List.append_assoc, List.singleton_append]
    unfold extLoop
    split_ifs with h₁ h₂
    · exact List.nil_suffix
    · exact h₂ ▸ List.suffix_append _ _
    · exact extLoop_suffix l (c :: seen)

/-- The extension is a suffix of the path. -/
theorem ext_suffix (s : String) : (ext s).data <:+ s.data := by
  simpa using extLoop_suffix s.data.reverse []

/-- A leading `../` does not change the extension of a name without the separator. -/
theorem ext_parent {s : String} (hs : '/' ∉ s.data) : ext ("../" ++ s) = ext s := by
  have h : ("../" ++ s).data.reverse = s.data.reverse ++ '/' :: ['.', '.'] := by simp
  rw [ext, h, extLoop_append_sep (by simpa using hs), ext]

end Filepath

/-! ## Saving an upload -/

/-- `strings.TrimSuffix`. -/
def trimSuffix (s suffix : String) : String :=
  if suffix.data <:+ s.data then ⟨s.data.take (s.data.length - suffix.data.length)⟩ else s

/-- The name `SaveUploadedFile` gives a file:
`fmt.Sprintf("%s_%d%s", strings.TrimSuffix(filename, ext), time.Now().UnixNano(), ext)`. -/
def uniqueFilename (filename : String) (nanos : Int) : String :=
  let ext := Filepath.ext filename
  trimSuffix filename ext ++ "_" ++ toString nanos ++ ext

/-- The path at which `SaveUploadedFile` creates the file,
`filepath.Join(UploadPath, uniqueFilename)`. -/
def saveUploadedFilePath (cfg : ImportConfig) (filename : String) (nanos : Int) : String :=
  Filepath.join [cfg.uploadPath, uniqueFilename filename nanos]

/-- The parts of the URL that `DownloadFileFromURL` reads of `url.Parse`'s result. -/
structure FileURL where
  /-- `Scheme`. -/
  scheme : String
  /-- `Path`. -/
  path : String

/-- What `DownloadFileFromURL` reads of the server's reply: the status code, and the
`filename` parameter of `Content-Disposition` as `mime.ParseMediaType` returns it; none
when the header is absent, does not parse or has no such parameter. -/
structure Reply where
  /-- `StatusCode`. -/
  statusCode : Nat
  /-- The `filename` parameter, if any. -/
  dispositionFilename : Option String

/-- The name `DownloadFileFromURL` saves the file under: the last element of the URL's path, or
`downloaded_file`, unless the reply names a file. -/
def downloadFilename (urlPath : String) (dispositionFilename : Option String) : String :=
  let filename := Filepath.base urlPath
  let filename :=
    if filename = "" ∨ filename = "." ∨ filename = "/" then "downloaded_file" else filename
  dispositionFilename.getD filename

/-- `DownloadFileFromURL` up to the creation of the file: the path of the file, or the error
for a scheme other than http and https or a status other than 200. -/
def downloadFileFromURL (cfg : ImportConfig) (url : FileURL) (reply : Reply) (nanos : Int) :
    Except String String :=
  if url.scheme ≠ "http" ∧ url.scheme ≠ "https" then .error "URL scheme must be http or https"
  else if reply.statusCode ≠ 200 then
    .error ("failed to download file: server returned " ++ toString reply.statusCode)
  else .ok (saveUploadedFilePath cfg (downloadFilename url.path reply.dispositionFilename) nanos)

/-- A leading `../` stays in front when a suffix of the rest is trimmed. -/
theorem trimSuffix_parent {s suffix : String} (h : suffix.data <:+ s.data) :
    trimSuffix ("../" ++ s) suffix = "../" ++ trimSuffix s suffix := by
  have h' : suffix.data <:+ ("../" ++ s).data := h.trans (List.suffix_append _ _)
  have hle := h.length_le
  rw [trimSuffix, trimSuffix, if_pos h', if_pos h]
  apply String.ext
  show List.take ((['.', '.', '/'] ++ s.data).length - suffix.data.length) (['.', '.', '/'] ++ s.data)
    = ['.', '.', '/'] ++ List.take (s.data.length - suffix.data.length) s.data
  rw [List.length_append, List.take_append_eq_append_take,
    List.take_of_length_le (by simp only [List.length_cons, List.length_nil]; omega)]
  congr 2
  simp only [List.length_cons, List.length_nil]
  omega

/-- A leading `../` stays in front of the unique name of a name without the separator. -/
theorem uniqueFilename_parent {s : String} (hs : '/' ∉ s.data) (nanos : Int) :
    uniqueFilename ("../" ++ s) nanos = "../" ++ uniqueFilename s nanos := by
  simp only [uniqueFilename, Filepath.ext_parent hs, trimSuffix_parent (Filepath.ext_suffix s),
    String.append_assoc]

/-- No decimal digit is the separator. -/
theorem digitChar_ne_sep : ∀ m < 10, Nat.digitChar m ≠ '/' := by
  decide

/-- The decimal digits of a natural number hold no separator. -/
theorem sep_not_mem_toDigitsCore :
    ∀ (fuel n : Nat) {ds : List Char}, '/' ∉ ds → '/' ∉ Nat.toDigitsCore 10 fuel n ds
  | 0, _, _, h => h
  | fuel + 1, n, ds, h => by
    have hd : '/' ∉ Nat.digitChar (n % 10) :: ds :=
      List.not_mem_cons_of_ne_of_not_mem (digitChar_ne_sep _ (Nat.mod_lt _ (by decide))).symm h
    simp only [Nat.toDigitsCore]
    split_ifs
    · exact hd
    · exact sep_not_mem_toDigitsCore fuel _ hd

/-- `%d` of an integer writes no separator. -/
theorem sep_not_mem_toString (n : Int) : '/' ∉ (toString n).data := by
  have hnat : ∀ m : Nat, '/' ∉ (toString m).data := fun m =>
    sep_not_mem_toDigitsCore _ _ (List.not_mem_nil _)
  rcases n with m | m
  · exact hnat m
  · simpa [toString] using hnat (m + 1)

/-- An element without the separator that holds `_` is a single element. -/
theorem single_of_underscore {e : List Char} (h : '_' ∈ e) (hs : '/' ∉ e) : Filepath.Single e :=
  ⟨List.ne_nil_of_mem h, by rintro rfl; exact absurd h (by decide),
    by rintro rfl; exact absurd h (by decide), hs⟩

/-- The unique name of a name without the separator is a single element. -/
theorem uniqueFilename_single {s : String} (hs : '/' ∉ s.data) (nanos : Int) :
    Filepath.Single (uniqueFilename s nanos).data := by
  have htrim : '/' ∉ (trimSuffix s (Filepath.ext s)).data := by
    unfold trimSuffix
    split_ifs
    · exact fun h => hs (List.mem_of_mem_take h)
    · exact hs
  have hext : '/' ∉ (Filepath.ext s).data := fun h => hs ((Filepath.ext_suffix s).subset h)
  refine single_of_underscore (by simp [uniqueFilename]) ?_
  simp only [uniqueFilename, String.data_append, List.mem_append, not_or]
  exact ⟨⟨⟨htrim, by decide⟩, sep_not_mem_toString nanos⟩, hext⟩

/-- `SaveUploadedFile` creates a file of a name without the separator inside the upload
directory, whatever the directory and the clock. -/
theorem saveUploadedFile_within (cfg : ImportConfig) {filename : String}
    (h : '/' ∉ filename.data) (nanos : Int) :
    Filepath.Within cfg.uploadPath (saveUploadedFilePath cfg filename nanos) :=
  Filepath.within_join _ _ (uniqueFilename_single h nanos)

/-- `filepath.Base` of a path, unless it is `/`, holds no separator. -/
theorem base_sep_not_mem {path : String} (h : Filepath.base path ≠ "/") :
    '/' ∉ (Filepath.base path).data := by
  unfold Filepath.base at h ⊢
  dsimp only at h ⊢
  split_ifs at h ⊢
  · decide
  · exact absurd rfl h
  · intro hm
    have := List.mem_takeWhile_imp (List.mem_reverse.mp hm)
    simp at this

/-- The name taken from the URL's path has no separator, nor one that the reply gives without. -/
theorem downloadFilename_sep_not_mem {urlPath : String} {disposition : Option String}
    (h : ∀ fn, disposition = some fn → '/' ∉ fn.data) :
    '/' ∉ (downloadFilename urlPath disposition).data := by
  rcases disposition with _ | fn
  · unfold downloadFilename
    dsimp only [Option.getD]
    split_ifs with hb
    · decide
    · exact base_sep_not_mem fun h => hb (.inr (.inr h))
  · exact h fn rfl

/-- A download whose reply names no file, or one without the separator, is saved inside the
upload directory. -/
theorem downloadFileFromURL_within {cfg : ImportConfig} {url : FileURL} {reply : Reply}
    {nanos : Int} {path : String}
    (h : ∀ fn, reply.dispositionFilename = some fn → '/' ∉ fn.data)
    (hok : downloadFileFromURL cfg url reply nanos = .ok path) :
    Filepath.Within cfg.uploadPath path := by
  unfold downloadFileFromURL at hok
  split_ifs at hok
  cases hok
  exact saveUploadedFile_within cfg (downloadFilename_sep_not_mem h) nanos

/-- The `filename` of `Content-Disposition` is used as it comes: for every upload directory
but the root, every URL of scheme http or https and every time, a reply that names the file
`../` followed by a name without the separator makes `DownloadFileFromURL` create the file
outside the upload directory, under a unique name that is not a single element. -/
theorem disposition_filename_escapes (cfg : ImportConfig) (hcfg : Filepath.clean cfg.uploadPath ≠ "/")
    (url : FileURL) (hscheme : url.scheme = "http" ∨ url.scheme = "https") {s : String}
    (hs : '/' ∉ s.data) (nanos : Int) :
    ∃ path, downloadFileFromURL cfg url ⟨200, some ("../" ++ s)⟩ nanos = .ok path ∧
      '/' ∈ (uniqueFilename ("../" ++ s) nanos).data ∧ ¬Filepath.Within cfg.uploadPath path := by
  have hscheme' : ¬(url.scheme ≠ "http" ∧ url.scheme ≠ "https") := by tauto
  refine ⟨_, by rw [downloadFileFromURL, if_neg hscheme', if_neg fun h => h rfl], ?_, ?_⟩
  · rw [uniqueFilename_parent hs]
    simp
  · rw [saveUploadedFilePath, downloadFilename, Option.getD_some, uniqueFilename_parent hs]
    exact Filepath.not_within_join_parent hcfg (uniqueFilename_single hs nanos)

/-- The reply that names `../escaped.csv`, to an https URL, at time 1 ns, with the
default upload directory, is saved outside it. -/
theorem escaped_csv_saved_outside :
    Filepath.clean ImportConfig.default.uploadPath ≠ "/" ∧
      ("https" = "http" ∨ "https" = "https") ∧ '/' ∉ "escaped.csv".data ∧
      ∃ path, downloadFileFromURL ImportConfig.default ⟨"https", "/files/users.csv"⟩
          ⟨200, some ("../" ++ "escaped.csv")⟩ 1 = .ok path ∧
        '/' ∈ (uniqueFilename ("../" ++ "escaped.csv") 1).data ∧
        ¬Filepath.Within ImportConfig.default.uploadPath path :=
  ⟨by decide, .inr rfl, by decide,
    disposition_filename_escapes ImportConfig.default (by decide) ⟨"https", "/files/users.csv"⟩
      (.inr rfl) (by decide) 1⟩

/-- With the default `UPLOAD_PATH` the file lands in the working directory. -/
example : downloadFileFromURL ImportConfig.default ⟨"https", "/files/users.csv"⟩
    ⟨200, some "../escaped.csv"⟩ 1 = .ok "escaped_1.csv" := by
  decide

end BulkImport
