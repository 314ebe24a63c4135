import InspectionLine.SeparatedFrames
import Mathlib.Data.Char
import Mathlib.Data.List.Lex
import Mathlib.Data.List.Sort

/-! # The fingerprint of a model artifact

The hash reads the sorted relative paths and the contents of the files, each with a NUL behind it.
A content may hold NULs, so a file can read like two files. -/
namespace InspectionLine

open SeparatedFrames

namespace ModelArtifact

abbrev Name := List Char

def ValidName (name : Name) : Prop :=
  name ≠ [] ∧ name ≠ ['.'] ∧ name ≠ ['.', '.'] ∧ '/' ∉ name ∧ '\x00' ∉ name

instance (name : Name) : Decidable (ValidName name) := by
  unfold ValidName
  infer_instance

/-- The path of a file below the artifact directory. -/
structure RelativePath where
  parts : List Name
  parts_ne_nil : parts ≠ []
  valid : ∀ name ∈ parts, ValidName name

namespace RelativePath

theorem ext_parts {p q : RelativePath} (h : p.parts = q.parts) : p = q := by
  cases p
  cases q
  cases h
  rfl

def asPosix (path : RelativePath) : List Char := ['/'].intercalate path.parts

def encoded (path : RelativePath) : List UInt8 := path.asPosix.flatMap String.utf8EncodeChar

end RelativePath

structure File where
  path : RelativePath
  content : List UInt8

/-- What the walk through the directory finds: the paths that are files, also through links. -/
inductive Entry where
  | file (file : File)
  | symlink (path : RelativePath)

def Entry.path : Entry → RelativePath
  | .file f => f.path
  | .symlink p => p

inductive ArtifactContractError where
  | emptyDirectory
  | symlink (path : RelativePath)

/-- Paths are sorted part by part, not as texts. -/
def Entry.sorted (entries : List Entry) : List Entry :=
  entries.insertionSort fun e f => e.path.parts ≤ f.path.parts

def update (hashed : List UInt8) : Entry → Except ArtifactContractError (List UInt8)
  | .file file => .ok (hashed ++ file.path.encoded ++ [0] ++ file.content ++ [0])
  | .symlink path => .error (.symlink path)

def hashedBytes (entries : List Entry) : Except ArtifactContractError (List UInt8) :=
  let files := Entry.sorted entries
  if files.isEmpty then .error .emptyDirectory
  else files.foldlM update []

def artifactDirectorySha256 {Digest : Type*} (sha256 : List UInt8 → Digest)
    (entries : List Entry) : Except ArtifactContractError Digest :=
  (hashedBytes entries).map sha256

/-- Two files that a directory can hold at the same time: no path leads through a file. -/
def File.Apart (f g : File) : Prop :=
  ¬ f.path.parts <+: g.path.parts ∧ ¬ g.path.parts <+: f.path.parts

structure Directory where
  files : List File
  apart : files.Pairwise File.Apart

def Directory.entries (d : Directory) : List Entry := d.files.map .file

/-! ### Paths as bytes -/

theorem zero_mem_utf8 {c : Char} (h : 0 ∈ String.utf8EncodeChar c) : c = '\x00' := by
  have hbyte : ∀ n, 0 < n % 256 → (0 : UInt8) ≠ UInt8.ofNat n := by
    intro n hn heq
    have := congrArg UInt8.toNat heq
    simp at this
    omega
  unfold String.utf8EncodeChar at h
  simp only at h
  split at h
  · rename_i hsmall
    by_contra hc
    refine absurd (List.mem_singleton.mp h) (hbyte _ ?_)
    have hpositive : c.val.toNat ≠ 0 := fun hzero => hc (Char.toNat_inj.mp hzero)
    omega
  split at h
  · simp only [List.mem_cons, List.not_mem_nil, or_false] at h
    rcases h with h | h <;> exact absurd h (hbyte _ (by omega))
  split at h
  · simp only [List.mem_cons, List.not_mem_nil, or_false] at h
    rcases h with h | h | h <;> exact absurd h (hbyte _ (by omega))
  · simp only [List.mem_cons, List.not_mem_nil, or_false] at h
    rcases h with h | h | h | h <;> exact absurd h (hbyte _ (by omega))

theorem mem_intercalate {c : Char} {separator : Name} {names : List Name}
    (h : c ∈ separator.intercalate names) : c ∈ separator ∨ ∃ name ∈ names, c ∈ name := by
  induction names with
  | nil => exact absurd h List.not_mem_nil
  | cons name names ih =>
    cases names with
    | nil => exact .inr ⟨name, List.mem_singleton_self name, by simpa [List.intercalate] using h⟩
    | cons next names =>
      have hsplit : c ∈ name ∨ c ∈ separator ∨ c ∈ separator.intercalate (next :: names) := by
        simpa [List.intercalate] using h
      rcases hsplit with hname | hseparator | hrest
      · exact .inr ⟨name, List.mem_cons_self, hname⟩
      · exact .inl hseparator
      · refine (ih hrest).imp_right fun ⟨other, hother, hc⟩ => ?_
        exact ⟨other, List.mem_cons_of_mem name hother, hc⟩

theorem utf8_injective {s t : List Char}
    (h : s.flatMap String.utf8EncodeChar = t.flatMap String.utf8EncodeChar) : s = t := by
  have hbytes : s.utf8Encode = t.utf8Encode := congrArg List.toByteArray h
  rw [← String.toByteArray_ofList, ← String.toByteArray_ofList] at hbytes
  exact String.ofList_injective (String.toByteArray_inj.mp hbytes)

namespace RelativePath

theorem zero_not_mem_encoded (path : RelativePath) : 0 ∉ path.encoded := by
  intro hzero
  obtain ⟨c, hc, hbyte⟩ := List.mem_flatMap.mp hzero
  obtain rfl := zero_mem_utf8 hbyte
  rcases mem_intercalate hc with hslash | ⟨name, hname, hnul⟩
  · exact absurd (List.mem_singleton.mp hslash) (by decide)
  · exact (path.valid name hname).2.2.2.2 hnul

theorem encoded_injective {p q : RelativePath} (h : p.encoded = q.encoded) : p = q := by
  have hslash : ∀ path : RelativePath, ∀ name ∈ path.parts, '/' ∉ name :=
    fun path name hname => (path.valid name hname).2.2.2.1
  have hposix : p.asPosix = q.asPosix := utf8_injective h
  refine ext_parts ?_
  rw [← List.splitOn_intercalate '/' (hslash p) p.parts_ne_nil,
    ← List.splitOn_intercalate '/' (hslash q) q.parts_ne_nil]
  exact congrArg (List.splitOn '/') hposix

end RelativePath

/-! ### The bytes of a directory -/

/-- The path and the content of a file as bytes. -/
def File.parts (f : File) : List UInt8 × List UInt8 := (f.path.encoded, f.content)

theorem file_parts_injective {f g : File} (h : f.parts = g.parts) : f = g := by
  obtain ⟨hpath, hcontent⟩ := Prod.mk.inj h
  cases f
  cases g
  cases RelativePath.encoded_injective hpath
  cases hcontent
  rfl

theorem update_files (files : List File) : ∀ hashed,
    (files.map Entry.file).foldlM update hashed =
      .ok (hashed ++ frames 0 (files.map File.parts)) := by
  induction files with
  | nil => exact fun hashed => congrArg _ (List.append_nil hashed).symm
  | cons f files ih =>
    intro hashed
    rw [List.map_cons, List.foldlM_cons, update, List.map_cons, frames_cons]
    refine (ih _).trans (congrArg _ ?_)
    simp [File.parts]

def File.Le (f g : File) : Prop := f.path.parts ≤ g.path.parts

instance : DecidableRel File.Le :=
  fun f g => inferInstanceAs (Decidable (f.path.parts ≤ g.path.parts))

instance : Std.Total File.Le := ⟨fun f g => le_total f.path.parts g.path.parts⟩

instance : IsTrans File File.Le := ⟨fun _ _ _ => le_trans⟩

def Directory.sorted (d : Directory) : List File := d.files.insertionSort File.Le

theorem Directory.sorted_perm (d : Directory) : d.sorted.Perm d.files :=
  List.perm_insertionSort _ _

theorem Directory.sorted_le (d : Directory) : d.sorted.Pairwise File.Le :=
  List.pairwise_insertionSort _ _

theorem Directory.sorted_apart (d : Directory) : d.sorted.Pairwise File.Apart :=
  (d.sorted_perm.pairwise_iff And.symm).mpr d.apart

theorem sorted_entries (d : Directory) : Entry.sorted d.entries = d.sorted.map .file := by
  refine (List.map_insertionSort _ _ _ _ fun f _ g _ => ?_).symm
  rfl

theorem hashed_bytes_eq (d : Directory) : hashedBytes d.entries =
    if d.files = [] then .error .emptyDirectory else .ok (frames 0 (d.sorted.map File.parts)) := by
  have hempty : (d.sorted.map Entry.file).isEmpty = true ↔ d.files = [] := by
    rw [List.isEmpty_iff, List.map_eq_nil_iff]
    exact ⟨fun h => (h ▸ d.sorted_perm).nil_eq.symm, fun h => (h ▸ d.sorted_perm).eq_nil⟩
  simp only [hashedBytes, sorted_entries, hempty]
  split
  · rfl
  · exact update_files d.sorted []

/-- A content of which a part reads like the path of a file that is sorted behind its own. -/
def File.HoldsAnother (f : File) : Prop :=
  ∃ (before after : List UInt8) (path : RelativePath),
    f.content = before ++ 0 :: (path.encoded ++ 0 :: after) ∧
      f.path.parts < path.parts ∧ ¬ f.path.parts <+: path.parts

theorem prefix_le {l m : List Name} (h : l <+: m) : l ≤ m := by
  induction l generalizing m with
  | nil => exact not_lt.mp (List.not_lt_nil m)
  | cons name l ih =>
    obtain ⟨rest, rfl⟩ := h
    exact List.cons_le_cons name (ih (List.prefix_append l rest))

theorem hashed_bytes_congr {d e : Directory} (hd : d.files ≠ []) (he : e.files ≠ [])
    (h : frames 0 (e.sorted.map File.parts) = frames 0 (d.sorted.map File.parts)) :
    hashedBytes e.entries = hashedBytes d.entries := by
  rw [hashed_bytes_eq, hashed_bytes_eq, if_neg hd, if_neg he, h]

/-- The second file of a directory can be moved into the content of the first. -/
theorem two_files_ambiguous {d : Directory} {f g : File} {rest : List File}
    (h : d.sorted = f :: g :: rest) :
    ∃ e : Directory, hashedBytes e.entries = hashedBytes d.entries ∧ ¬ e.files.Perm d.files := by
  have hle := d.sorted_le
  have hapart := d.sorted_apart
  have hperm := d.sorted_perm
  rw [h] at hle hapart hperm
  obtain ⟨hle, -, hrest⟩ := (List.pairwise_cons.mp hle).imp_right List.pairwise_cons.mp
  obtain ⟨hapart, -, hrests⟩ := (List.pairwise_cons.mp hapart).imp_right List.pairwise_cons.mp
  let merged : File := ⟨f.path, f.content ++ 0 :: (g.path.encoded ++ 0 :: g.content)⟩
  let e : Directory := ⟨merged :: rest,
    .cons (fun other hother => hapart other (List.mem_cons_of_mem g hother)) hrests⟩
  have hsorted : e.sorted = merged :: rest :=
    List.Pairwise.insertionSort_eq (.cons (fun other hother => hle other
      (List.mem_cons_of_mem g hother)) hrest)
  refine ⟨e, hashed_bytes_congr ?_ (List.cons_ne_nil _ _) ?_, fun hsame => ?_⟩
  · exact fun hnil => List.cons_ne_nil _ _ (hnil ▸ hperm).eq_nil
  · rw [hsorted, h]
    exact frames_merge f.parts g.parts _
  · have hlength := (hsame.trans hperm.symm).length_eq
    simp only [e, List.length_cons] at hlength
    omega

/-- A file that holds another can be read as two. -/
theorem held_file_ambiguous {d : Directory} {f : File} (hd : d.files = [f])
    (h : f.HoldsAnother) :
    ∃ e : Directory, hashedBytes e.entries = hashedBytes d.entries ∧ ¬ e.files.Perm d.files := by
  obtain ⟨before, after, path, hcontent, hlt, hapart⟩ := h
  let e : Directory := ⟨[⟨f.path, before⟩, ⟨path, after⟩], by
    refine .cons (fun other hother => ?_) (List.pairwise_singleton _ _)
    obtain rfl := List.mem_singleton.mp hother
    exact ⟨hapart, fun hle => absurd (prefix_le hle) (not_le_of_gt hlt)⟩⟩
  have hsorted : e.sorted = e.files :=
    List.Pairwise.insertionSort_eq (.cons (fun other hother =>
      List.mem_singleton.mp hother ▸ hlt.le) (List.pairwise_singleton _ _))
  have hsingle : d.sorted = [f] := List.perm_singleton.mp (hd ▸ d.sorted_perm)
  have hne : d.files ≠ [] := hd ▸ List.cons_ne_nil _ _
  refine ⟨e, hashed_bytes_congr hne (List.cons_ne_nil _ _) ?_, fun hsame => ?_⟩
  · rw [hsorted, hsingle]
    have hmerge : frames 0 [(f.path.encoded, before ++ 0 :: (path.encoded ++ 0 :: after))] =
        frames 0 [(f.path.encoded, before), (path.encoded, after)] :=
      frames_merge (f.path.encoded, before) (path.encoded, after) []
    rw [← hcontent] at hmerge
    exact hmerge.symm
  · have hlength := hsame.length_eq
    rw [hd] at hlength
    simp [e] at hlength

/-- The files are told from the bytes of a single file that does not hold another. -/
theorem single_file_determined {d e : Directory} {f : File} (hd : d.files = [f])
    (hholds : ¬ f.HoldsAnother) (h : hashedBytes e.entries = hashedBytes d.entries) :
    e.files.Perm d.files := by
  have hsingle : d.sorted = [f] := List.perm_singleton.mp (hd ▸ d.sorted_perm)
  have hne : d.files ≠ [] := hd ▸ List.cons_ne_nil _ _
  rw [hashed_bytes_eq, hashed_bytes_eq, if_neg hne, hsingle] at h
  split at h
  · exact absurd h nofun
  have hperm := e.sorted_perm
  have hle := e.sorted_le
  have hapart := e.sorted_apart
  have hframes : frames 0 (e.sorted.map File.parts) = frames 0 [f.parts] := Except.ok.inj h
  cases hsorted : e.sorted with
  | nil =>
    rw [hsorted] at hframes
    simp [frames, frame] at hframes
  | cons first rest =>
    rw [hsorted] at hframes hperm hle hapart
    obtain ⟨hpath, hvalue⟩ := @frames_single _ 0 f.parts first.parts _
      f.path.zero_not_mem_encoded first.path.zero_not_mem_encoded hframes
    have hpath : first.path = f.path := RelativePath.encoded_injective hpath
    rcases hvalue with ⟨hnil, hcontent⟩ | ⟨next, others, tail, hcons, hcontent⟩
    · obtain rfl := List.map_eq_nil_iff.mp hnil
      obtain rfl : first = f := file_parts_injective
        (Prod.ext (congrArg RelativePath.encoded hpath) hcontent)
      rw [hd]
      exact hperm.symm
    · obtain ⟨g, gs, rfl, rfl, rfl⟩ := List.map_eq_cons_iff.mp hcons
      have hfirst : first.path.parts ≤ g.path.parts :=
        (List.pairwise_cons.mp hle).1 g List.mem_cons_self
      have happart : first.Apart g := (List.pairwise_cons.mp hapart).1 g List.mem_cons_self
      refine absurd ⟨first.content, tail, g.path, hcontent, ?_, ?_⟩ hholds
      · rw [← hpath]
        refine lt_of_le_of_ne hfirst fun heq => happart.1 ?_
        exact heq ▸ List.prefix_rfl
      · exact hpath ▸ happart.1

/-- The bytes that are hashed determine the files, if and only if there is at most one file and its
content does not hold the path of another between NULs. -/
theorem fingerprint_determines_iff (d : Directory) :
    (∀ e : Directory, hashedBytes e.entries = hashedBytes d.entries → e.files.Perm d.files) ↔
      d.files.length ≤ 1 ∧ ∀ f ∈ d.files, ¬ f.HoldsAnother := by
  constructor
  · intro h
    have hunambiguous : ¬ ∃ e : Directory, hashedBytes e.entries = hashedBytes d.entries ∧
        ¬ e.files.Perm d.files := fun ⟨e, hbytes, hne⟩ => hne (h e hbytes)
    have hlength : d.files.length ≤ 1 := by
      rw [← d.sorted_perm.length_eq]
      match hsorted : d.sorted with
      | [] | [_] => simp
      | f :: g :: rest => exact absurd (two_files_ambiguous hsorted) hunambiguous
    refine ⟨hlength, fun f hf hholds => hunambiguous (held_file_ambiguous ?_ hholds)⟩
    obtain ⟨g, hg⟩ := List.length_eq_one_iff.mp
      (le_antisymm hlength (List.length_pos_of_mem hf))
    rw [hg] at hf ⊢
    rw [List.mem_singleton.mp hf]
  · rintro ⟨hlength, hholds⟩ e hbytes
    match hfiles : d.files with
    | [] =>
      rw [hashed_bytes_eq, hashed_bytes_eq, if_pos hfiles] at hbytes
      split at hbytes
      · rename_i hnil
        exact hnil ▸ .nil
      · exact absurd hbytes nofun
    | [f] =>
      have hf : f ∈ d.files := hfiles ▸ List.mem_singleton_self f
      exact hfiles ▸ single_file_determined hfiles (hholds f hf) hbytes
    | _ :: _ :: _ => simp [hfiles] at hlength

/-- Two directories whose contents have no NUL in them are told from their bytes. -/
theorem nul_free_determined {d e : Directory} (hd : ∀ f ∈ d.files, 0 ∉ f.content)
    (he : ∀ f ∈ e.files, 0 ∉ f.content) (h : hashedBytes e.entries = hashedBytes d.entries) :
    e.files.Perm d.files := by
  have hfree : ∀ c : Directory, (∀ f ∈ c.files, 0 ∉ f.content) →
      ∀ p ∈ c.sorted.map File.parts, 0 ∉ p.1 ∧ 0 ∉ p.2 := by
    intro c hc p hp
    obtain ⟨f, hf, rfl⟩ := List.mem_map.mp hp
    exact ⟨f.path.zero_not_mem_encoded, hc f (c.sorted_perm.mem_iff.mp hf)⟩
  rw [hashed_bytes_eq, hashed_bytes_eq] at h
  split at h <;> split at h
  · rename_i hnil hnil'
    rw [hnil, hnil']
  · exact absurd h nofun
  · exact absurd h nofun
  · have hparts := frames_injective (hfree e he) (hfree d hd) (Except.ok.inj h)
    have hsorted : e.sorted = d.sorted :=
      List.map_injective_iff.mpr (fun _ _ => file_parts_injective) hparts
    exact e.sorted_perm.symm.trans (hsorted ▸ d.sorted_perm)

def modelPath (name : Name) (h : ValidName name) : RelativePath :=
  ⟨[name], List.cons_ne_nil _ _, fun _ hname => List.mem_singleton.mp hname ▸ h⟩

def oneFile : Directory where
  files := [⟨modelPath ['a'] (by decide), [1, 0, 98, 0, 2]⟩]
  apart := List.pairwise_singleton _ _

def twoFiles : Directory where
  files := [⟨modelPath ['a'] (by decide), [1]⟩, ⟨modelPath ['b'] (by decide), [2]⟩]
  apart := .cons (fun f hf => by
    obtain rfl := List.mem_singleton.mp hf
    exact ⟨by decide, by decide⟩) (List.pairwise_singleton _ _)

/-- A file and two files have the same fingerprint under every hash. -/
theorem different_artifacts_same_fingerprint :
    (¬ ∀ d e : Directory, hashedBytes e.entries = hashedBytes d.entries →
      e.files.Perm d.files) ∧
    ∀ sha256 : List UInt8 → List UInt8, artifactDirectorySha256 sha256 twoFiles.entries =
      artifactDirectorySha256 sha256 oneFile.entries := by
  have hbytes : hashedBytes twoFiles.entries = hashedBytes oneFile.entries := rfl
  refine ⟨fun h => absurd (h oneFile twoFiles hbytes).length_eq (by decide), fun sha256 => ?_⟩
  exact congrArg (Except.map sha256) hbytes

end ModelArtifact

end InspectionLine
