import Mathlib.Logic.Function.Basic

/-!
# The host: Go errors and the file system

The VM package reaches the host through `os`, `path/filepath` and the terminal ioctls.
These act here on a `Host`: a map from paths to nodes, the random source of
`os.MkdirTemp`, and the attributes of the terminal on standard input.

A path is kept as a root directory and the plain names below it, which is how the
package builds every path it opens (`filepath.Join(dir, "boot", "nixos-kernel")`).
Distinct root strings name unrelated directories. Symbolic links are those of the
guest image; their targets live in the guest, so the host opens none of them.

* `Host.openFile`, `Host.mkdirAll`, `Host.mkdirTemp`, `Host.truncate`: `open(2)` with the
  package's flags, `os.MkdirAll`, `os.MkdirTemp("", "devboxvm-")`, `(*os.File).Truncate`.
* `Host.Grows`: no operation removes a node or changes its kind, and a symbolic link
  never changes (`openFile_grows`, `mkdirAll_grows`, `mkdirTemp_grows`, ...).
* `Host.Keeps`: the existing nodes an operation may change (`openFile_keeps`, ...).
-/

namespace Jetpack

/-- The `syscall.Errno` values the package's file and terminal operations meet. -/
inductive Errno
  | noent
  | exist
  | isdir
  | notdir
  | inval
  | notty
  deriving DecidableEq, Repr

/-- `Errno.Error()`. -/
def Errno.text : Errno → String
  | .noent => "no such file or directory"
  | .exist => "file exists"
  | .isdir => "is a directory"
  | .notdir => "not a directory"
  | .inval => "invalid argument"
  | .notty => "inappropriate ioctl for device"

/-- A Go `error` value, by how it was made: an `*fs.PathError`, a bare `syscall.Errno`,
`io.EOF`, `io.ErrUnexpectedEOF`, or any other error by its message (`errors.New`,
`fmt.Errorf` with `%v`, an error of the virtualization engine). -/
inductive Error
  | path (op path : String) (errno : Errno)
  | errno (e : Errno)
  | eof
  | unexpectedEOF
  | text (msg : String)
  deriving DecidableEq, Repr

/-- `err.Error()`. -/
def Error.msg : Error → String
  | .path op p e => op ++ " " ++ p ++ ": " ++ e.text
  | .errno e => e.text
  | .eof => "EOF"
  | .unexpectedEOF => "unexpected EOF"
  | .text m => m

/-- `fmt.Errorf(pre + ": %v", err)`. -/
def Error.wrap (pre : String) (e : Error) : Error := .text (pre ++ ": " ++ e.msg)

/-- `errors.Is(err, os.ErrNotExist)`. -/
def Error.isNotExist : Error → Bool
  | .path _ _ .noent => true
  | .errno .noent => true
  | _ => false

/-- `errors.Is(err, os.ErrExist)`. -/
def Error.isExist : Error → Bool
  | .path _ _ .exist => true
  | .errno .exist => true
  | _ => false

/-- A host path: `filepath.Join(root, rel...)`. -/
structure Path where
  root : String
  rel : List String
  deriving DecidableEq, Repr

/-- The path as the string `filepath.Join` returns. -/
def Path.toString (p : Path) : String := String.intercalate "/" (p.root :: p.rel)

/-- `filepath.Dir(p)`, for a path below its root. -/
def Path.dir (p : Path) : Path := ⟨p.root, p.rel.dropLast⟩

/-- A node of the host file system. -/
inductive Node
  | dir
  | file (data : List Char)
  | symlink (target : String)
  deriving DecidableEq, Repr

/-- The terminal attributes `attachConsole` reads and writes (`man termios`). -/
structure Termios where
  icrnl : Bool
  icanon : Bool
  echo : Bool
  vmin : Nat
  vtime : Nat
  deriving DecidableEq, Repr

/-- The host. `rand` is the sequence of random numbers `os.MkdirTemp` draws, `drawn`
how many it has drawn; `stdin` is `none` when standard input is not a terminal. -/
structure Host where
  fs : Path → Option Node
  tempDir : String
  rand : Nat → Nat
  drawn : Nat
  stdin : Option Termios

/-- The flags of `os.OpenFile`, as far as `open(2)` tells them apart. -/
structure Flag where
  write : Bool
  create : Bool
  excl : Bool
  trunc : Bool
  deriving DecidableEq, Repr

/-- `os.O_RDONLY`. -/
def Flag.rdonly : Flag := ⟨false, false, false, false⟩
/-- `os.O_WRONLY | os.O_CREATE | os.O_TRUNC`. -/
def Flag.truncate : Flag := ⟨true, true, false, true⟩
/-- `os.O_WRONLY | os.O_CREATE | os.O_APPEND`. -/
def Flag.append : Flag := ⟨true, true, false, false⟩
/-- `os.O_RDWR | os.O_CREATE | os.O_EXCL`. -/
def Flag.exclusive : Flag := ⟨true, true, true, false⟩

namespace Host

variable {h h' : Host} {p q : Path}

/-- Put `n` at `p`. -/
def setNode (h : Host) (p : Path) (n : Node) : Host := { h with fs := Function.update h.fs p (some n) }

@[simp] theorem setNode_fs_self (h : Host) (p : Path) (n : Node) : (h.setNode p n).fs p = some n := by
  simp [setNode]

@[simp] theorem setNode_fs_ne (h : Host) (n : Node) (hq : q ≠ p) : (h.setNode p n).fs q = h.fs q := by
  simp [setNode, Function.update_noteq hq]

/-- Why a node cannot be created at `p`: its parent is missing, or is not a directory. The
parent of a root lies outside the model. -/
def parentErr (h : Host) (p : Path) : Option Errno :=
  if p.rel = [] then none
  else
    match h.fs p.dir with
    | some .dir => none
    | some (.file _) => some .notdir
    | _ => some .noent

/-- `open(2)`, as `os.OpenFile` calls it. The file handle is the path itself. -/
def openFile (h : Host) (p : Path) (flag : Flag) : Except Error Host :=
  match h.fs p with
  | some n =>
    if flag.create && flag.excl then .error (.path "open" p.toString .exist)
    else
      match n with
      | .dir => if flag.write then .error (.path "open" p.toString .isdir) else .ok h
      | .file _ => .ok (if flag.trunc then h.setNode p (.file []) else h)
      | .symlink _ => .error (.path "open" p.toString .noent)
  | none =>
    match h.parentErr p with
    | some e => .error (.path "open" p.toString e)
    | none => if flag.create then .ok (h.setNode p (.file [])) else .error (.path "open" p.toString .noent)

/-- What `os.MkdirAll` does with a path that exists: nothing for a directory, an error
otherwise. -/
def mkdirExisting (p : Path) : Node → Except Error Host → Except Error Host
  | .dir, r => r
  | .file _, _ => .error (.path "mkdir" p.toString .notdir)
  | .symlink _, _ => .error (.path "mkdir" p.toString .exist)

/-- `os.MkdirAll(filepath.Join(r, names.reverse...))`: a path that exists is checked, a
missing one is made after its parent. -/
def mkdirAllRev (r : String) : List String → Host → Except Error Host
  | [], h =>
    match h.fs ⟨r, []⟩ with
    | some n => mkdirExisting ⟨r, []⟩ n (.ok h)
    | none => .ok (h.setNode ⟨r, []⟩ .dir)
  | name :: names, h =>
    match h.fs ⟨r, (name :: names).reverse⟩ with
    | some n => mkdirExisting ⟨r, (name :: names).reverse⟩ n (.ok h)
    | none => (mkdirAllRev r names h).map (·.setNode ⟨r, (name :: names).reverse⟩ .dir)

/-- `os.MkdirAll(p, 0o700)`. -/
def mkdirAll (h : Host) (p : Path) : Except Error Host := mkdirAllRev p.root p.rel.reverse h

/-- `joinPath(dir, name)` of `os.MkdirTemp`: no separator is added after a `dir` that ends
in one (`len(dir) > 0 && IsPathSeparator(dir[len(dir)-1])`). -/
def joinPath (dir name : String) : String :=
  if dir.toList.getLast? = some '/' then dir ++ name else dir ++ "/" ++ name

/-- The loop of `os.MkdirTemp("", "devboxvm-")` with `tries` names left to try: each try
draws a random `uint32` and makes the directory with that suffix, retrying while the name
exists. -/
def mkdirTempLoop : Nat → Host → Except Error (String × Host)
  | 0, h => .error (.text ("mkdirtemp " ++ h.tempDir ++ "/" ++ joinPath h.tempDir "devboxvm-" ++
      "*: file already exists"))
  | tries + 1, h =>
    let name := joinPath h.tempDir "devboxvm-" ++ toString (h.rand h.drawn % UInt32.size)
    let h := { h with drawn := h.drawn + 1 }
    match h.fs ⟨name, []⟩ with
    | none => .ok (name, h.setNode ⟨name, []⟩ .dir)
    | some _ => mkdirTempLoop tries h

/-- `os.MkdirTemp("", "devboxvm-")`. -/
def mkdirTemp (h : Host) : Except Error (String × Host) := mkdirTempLoop 10000 h

/-- `os.Readlink(p)`. -/
def readlink (h : Host) (p : Path) : Except Error String :=
  match h.fs p with
  | some (.symlink t) => .ok t
  | some _ => .error (.path "readlink" p.toString .inval)
  | none => .error (.path "readlink" p.toString ((h.parentErr p).getD .noent))

theorem readlink_eq_ok {h : Host} {p : Path} {t : String} : h.readlink p = .ok t ↔ h.fs p = some (.symlink t) := by
  unfold readlink
  split <;> simp_all

/-- The content of a file of `size` bytes after `ftruncate`: cut, or padded with zeros. -/
def resize (d : List Char) (size : Nat) : List Char := d.take size ++ List.replicate (size - d.length) '\x00'

@[simp] theorem length_resize (d : List Char) (size : Nat) : (resize d size).length = size := by
  simp only [resize, List.length_append, List.length_take, List.length_replicate]; omega

/-- `(*os.File).Truncate(size)` on the file at `p`. -/
def truncate (h : Host) (p : Path) (size : Int) : Except Error Host :=
  if size < 0 then .error (.path "truncate" p.toString .inval)
  else
    match h.fs p with
    | some (.file d) => .ok (h.setNode p (.file (resize d size.toNat)))
    | _ => .ok h

/-- What `fmt.Fprintf` leaves in the file at `p`, just opened for writing: the text from
offset 0, over what the file held. -/
def write (h : Host) (p : Path) (text : List Char) : Host :=
  match h.fs p with
  | some (.file d) => h.setNode p (.file (text ++ d.drop text.length))
  | _ => h

theorem write_of_file {d : List Char} (hp : h.fs p = some (.file d)) (text : List Char) :
    h.write p text = h.setNode p (.file (text ++ d.drop text.length)) := by
  simp only [write, hp]

/-- Into a file just truncated, the text is all the file holds. -/
@[simp] theorem write_setNode_empty (h : Host) (p : Path) (text : List Char) :
    (h.setNode p (.file [])).write p text = h.setNode p (.file text) := by
  rw [write_of_file (setNode_fs_self h p _), List.drop_nil, List.append_nil]
  simp only [setNode, Function.update_idem]

/-- The runes `fmt.Fscanf` reads from the file at `p`, opened for reading. -/
def read (h : Host) (p : Path) : Except Error (List Char) :=
  match h.fs p with
  | some (.file d) => .ok d
  | _ => .error (.path "read" p.toString .isdir)

/-- `unix.IoctlGetTermios(stdin, TIOCGETA)`. -/
def getTermios (h : Host) : Except Error Termios :=
  match h.stdin with
  | some t => .ok t
  | none => .error (.errno .notty)

/-- `unix.IoctlSetTermios(stdin, TIOCSETA, t)`. -/
def setTermios (h : Host) (t : Termios) : Except Error Host :=
  match h.stdin with
  | some _ => .ok { h with stdin := some t }
  | none => .error (.errno .notty)

/-! ### What an operation may change -/

/-- `h'` comes from `h` by adding nodes and rewriting files: a directory stays a
directory, a file stays a file, a symbolic link stays as it is. -/
structure Grows (h h' : Host) : Prop where
  dir : ∀ p, h.fs p = some .dir → h'.fs p = some .dir
  file : ∀ p d, h.fs p = some (.file d) → ∃ d', h'.fs p = some (.file d')
  symlink : ∀ p t, h.fs p = some (.symlink t) → h'.fs p = some (.symlink t)

/-- The node at `p`, if there is one, is the same in `h'` as in `h`. -/
def Keeps (h h' : Host) (p : Path) : Prop := h.fs p ≠ none → h'.fs p = h.fs p

theorem Grows.refl (h : Host) : h.Grows h := ⟨fun _ => id, fun _ d hd => ⟨d, hd⟩, fun _ _ => id⟩

theorem Grows.trans {h₁ h₂ h₃ : Host} (a : h₁.Grows h₂) (b : h₂.Grows h₃) : h₁.Grows h₃ where
  dir p hp := b.dir p (a.dir p hp)
  file p d hp := by obtain ⟨d', hd'⟩ := a.file p d hp; exact b.file p d' hd'
  symlink p t hp := b.symlink p t (a.symlink p t hp)

/-- No node is ever removed. -/
theorem Grows.ne_none (g : h.Grows h') (hp : h.fs p ≠ none) : h'.fs p ≠ none := by
  cases hn : h.fs p with
  | none => exact absurd hn hp
  | some n =>
    cases n with
    | dir => simp [g.dir p hn]
    | file d => obtain ⟨d', hd'⟩ := g.file p d hn; simp [hd']
    | symlink t => simp [g.symlink p t hn]

theorem Keeps.refl (h : Host) (p : Path) : h.Keeps h p := fun _ => rfl

theorem Keeps.trans {h₁ h₂ h₃ : Host} (a : h₁.Keeps h₂ p) (b : h₂.Keeps h₃ p) : h₁.Keeps h₃ p :=
  fun hp => (b (by rw [a hp]; exact hp)).trans (a hp)

/-- Putting a node at a free path, or a file over a file, is growth. -/
theorem grows_setNode {n : Node}
    (hp : h.fs p = none ∨ (∃ d, h.fs p = some (.file d)) ∧ ∃ d', n = .file d') :
    h.Grows (h.setNode p n) := by
  refine ⟨fun q hq => ?_, fun q d hq => ?_, fun q t hq => ?_⟩ <;> by_cases e : q = p
  all_goals first
    | (subst e; rcases hp with hp | ⟨⟨d₀, hd₀⟩, d', rfl⟩ <;> simp_all)
    | simp [setNode_fs_ne _ _ e, hq]

theorem keeps_setNode_ne (n : Node) (hq : q ≠ p) : h.Keeps (h.setNode p n) q :=
  fun _ => setNode_fs_ne h n hq

/-- An open either changes nothing, or puts an empty file at the path it opens: a new one,
or over a file, with `O_TRUNC`. -/
theorem openFile_cases {f : Flag} (e : h.openFile p f = .ok h') :
    h' = h ∨ h' = h.setNode p (.file []) ∧
      (h.fs p = none ∧ f.create = true ∨ (∃ d, h.fs p = some (.file d)) ∧ f.trunc = true) := by
  unfold openFile at e
  cases hn : h.fs p with
  | some n =>
    rw [hn] at e
    by_cases hx : (f.create && f.excl) = true
    · simp [hx] at e
    · simp only [hx] at e
      cases n with
      | dir => by_cases hw : f.write = true <;> simp [hw] at e; exact .inl e.symm
      | file d => by_cases ht : f.trunc = true <;> simp [ht] at e <;> simp [e, ht]
      | symlink => simp at e
  | none =>
    rw [hn] at e
    cases hp : h.parentErr p with
    | some => simp [hp] at e
    | none => by_cases hc : f.create = true <;> simp [hp, hc] at e; exact .inr ⟨e.symm, .inl ⟨rfl, hc⟩⟩

theorem openFile_grows {f : Flag} (e : h.openFile p f = .ok h') : h.Grows h' := by
  rcases openFile_cases e with rfl | ⟨rfl, hp⟩
  · exact Grows.refl _
  · exact grows_setNode (hp.imp (·.1) fun hp => ⟨hp.1, [], rfl⟩)

/-- Only an open with `O_TRUNC` changes the node it opens, and no open changes another. -/
theorem openFile_keeps {f : Flag} (e : h.openFile p f = .ok h') (hq : q ≠ p ∨ f.trunc = false) :
    h.Keeps h' q := by
  rcases openFile_cases e with rfl | ⟨rfl, hp⟩
  · exact Keeps.refl _ q
  · by_cases hqp : q = p
    · subst hqp
      rcases hp with ⟨hp, -⟩ | ⟨-, ht⟩
      · exact fun hq' => absurd hp hq'
      · simp [ht] at hq
    · exact keeps_setNode_ne _ hqp

theorem openFile_of_file {f : Flag} {d : List Char} (hf : h.fs p = some (.file d))
    (hx : f.excl = false) : h.openFile p f = .ok (if f.trunc then h.setNode p (.file []) else h) := by
  simp [openFile, hf, hx]

theorem openFile_of_none {f : Flag} (hf : h.fs p = none) (hp : h.parentErr p = none)
    (hc : f.create = true) : h.openFile p f = .ok (h.setNode p (.file [])) := by
  simp [openFile, hf, hp, hc]

theorem parentErr_of_dir (hp : p.rel ≠ []) (hd : h.fs p.dir = some .dir) : h.parentErr p = none := by
  simp [parentErr, hp, hd]

theorem parentErr_of_none (hp : p.rel ≠ []) (hd : h.fs p.dir = none) :
    h.parentErr p = some .noent := by
  simp [parentErr, hp, hd]

/-- An exclusive open succeeds only by creating the file. -/
theorem openFile_exclusive (e : h.openFile p .exclusive = .ok h') :
    h.fs p = none ∧ h' = h.setNode p (.file []) := by
  unfold openFile at e
  cases hn : h.fs p with
  | some n => simp [hn, Flag.exclusive] at e
  | none =>
    cases hp : h.parentErr p <;> simp [hn, hp, Flag.exclusive] at e
    exact ⟨rfl, e.symm⟩

/-- A read-only open changes nothing. -/
theorem openFile_rdonly (e : h.openFile p .rdonly = .ok h') : h' = h := by
  rcases openFile_cases e with rfl | ⟨-, ⟨-, hc⟩ | ⟨-, ht⟩⟩
  · rfl
  · cases hc
  · cases ht

theorem mkdirExisting_eq {p : Path} {n : Node} {h h' : Host}
    (e : mkdirExisting p n (.ok h) = .ok h') : n = .dir ∧ h' = h := by
  cases n <;> simp [mkdirExisting] at e ⊢; exact e.symm

/-- `MkdirAll` makes only directories at or above its path. -/
theorem mkdirAllRev_fs_outside (r : String) :
    ∀ (names : List String) {h h' : Host}, mkdirAllRev r names h = .ok h' →
      (q.root ≠ r ∨ names.length < q.rel.length) → h'.fs q = h.fs q
  | [], h, h', e, hq => by
    simp only [mkdirAllRev] at e
    split at e
    · rw [(mkdirExisting_eq e).2]
    · cases e
      refine setNode_fs_ne h _ fun hqp => ?_
      subst hqp; simp at hq
  | name :: names, h, h', e, hq => by
    simp only [mkdirAllRev] at e
    split at e
    · rw [(mkdirExisting_eq e).2]
    · cases e1 : mkdirAllRev r names h with
      | error => rw [e1] at e; cases e
      | ok h₁ =>
        rw [e1] at e; cases e
        have hq' : q.root ≠ r ∨ names.length < q.rel.length := by
          rcases hq with hq | hq
          · exact .inl hq
          · exact .inr (by simp at hq; omega)
        rw [setNode_fs_ne _ _ fun hqp => ?_, mkdirAllRev_fs_outside r names e1 hq']
        subst hqp; simp at hq

theorem mkdirAllRev_grows (r : String) :
    ∀ (names : List String) {h h' : Host}, mkdirAllRev r names h = .ok h' → h.Grows h'
  | [], h, h', e => by
    simp only [mkdirAllRev] at e
    split at e
    · rw [(mkdirExisting_eq e).2]; exact Grows.refl h
    · cases e; exact grows_setNode (.inl ‹_›)
  | name :: names, h, h', e => by
    simp only [mkdirAllRev] at e
    split at e
    · rw [(mkdirExisting_eq e).2]; exact Grows.refl h
    · rename_i hn
      cases e1 : mkdirAllRev r names h with
      | error => rw [e1] at e; cases e
      | ok h₁ =>
        rw [e1] at e; cases e
        have hfree : h₁.fs ⟨r, (name :: names).reverse⟩ = none := by
          rw [mkdirAllRev_fs_outside r names e1 (.inr (by simp))]; exact hn
        exact (mkdirAllRev_grows r names e1).trans (grows_setNode (.inl hfree))

/-- `MkdirAll` changes no node that exists. -/
theorem mkdirAllRev_keeps (r : String) :
    ∀ (names : List String) {h h' : Host}, mkdirAllRev r names h = .ok h' → ∀ q, h.Keeps h' q
  | [], h, h', e, q, hq => by
    simp only [mkdirAllRev] at e
    split at e
    · rw [(mkdirExisting_eq e).2]
    · cases e
      exact setNode_fs_ne h _ fun hqp => by subst hqp; exact hq ‹_›
  | name :: names, h, h', e, q, hq => by
    simp only [mkdirAllRev] at e
    split at e
    · rw [(mkdirExisting_eq e).2]
    · rename_i hn
      cases e1 : mkdirAllRev r names h with
      | error => rw [e1] at e; cases e
      | ok h₁ =>
        rw [e1] at e; cases e
        have h1q := mkdirAllRev_keeps r names e1 q hq
        rw [setNode_fs_ne _ _ fun hqp => by subst hqp; exact hq hn, h1q]

theorem mkdirAll_grows (e : h.mkdirAll p = .ok h') : h.Grows h' := mkdirAllRev_grows _ _ e

/-- A missing directory in an existing one is made. -/
theorem mkdirAll_child {r m : String} (hr : h.fs ⟨r, []⟩ = some .dir) (hm : h.fs ⟨r, [m]⟩ = none) :
    h.mkdirAll ⟨r, [m]⟩ = .ok (h.setNode ⟨r, [m]⟩ .dir) := by
  simp [mkdirAll, mkdirAllRev, hm, hr, mkdirExisting, Except.map]

/-- `Truncate` of a file just created: zeros up to the size, or an error for a negative
size. -/
theorem truncate_setNode_empty (h : Host) (p : Path) (size : Int) :
    (h.setNode p (.file [])).truncate p size =
      if size < 0 then .error (.path "truncate" p.toString .inval)
      else .ok (h.setNode p (.file (resize [] size.toNat))) := by
  unfold truncate
  split
  · rfl
  · simp only [setNode_fs_self]
    simp only [setNode, Function.update_idem]

/-- `Truncate` to a size that is not negative succeeds: it resizes a file and leaves any
other node. -/
theorem truncate_of_nonneg {size : Int} (hs : 0 ≤ size) :
    h.truncate p size = .ok h ∨ ∃ c, h.truncate p size = .ok (h.setNode p (.file c)) := by
  unfold truncate
  rw [if_neg (Int.not_lt.2 hs)]
  split
  · exact .inr ⟨_, rfl⟩
  · exact .inl rfl

theorem mkdirAll_keeps (e : h.mkdirAll p = .ok h') (q : Path) : h.Keeps h' q :=
  mkdirAllRev_keeps _ _ e q

theorem length_joinPath (dir name : String) : name.length ≤ (joinPath dir name).length := by
  unfold joinPath; split <;> simp only [String.length_append] <;> omega

/-- What `MkdirTemp` returns: a new directory, at a root that was free, with a name that
is not empty; nothing else changes. -/
theorem mkdirTempLoop_spec :
    ∀ (tries : Nat) {h₀ h₁ : Host} {r : String}, mkdirTempLoop tries h₀ = .ok (r, h₁) →
      h₀.fs ⟨r, []⟩ = none ∧ (∃ n, h₁ = { h₀.setNode ⟨r, []⟩ .dir with drawn := n }) ∧ r ≠ ""
  | 0, _, _, _, e => by simp [mkdirTempLoop] at e
  | tries + 1, h, _, r, e => by
    simp only [mkdirTempLoop] at e
    split at e
    · rename_i hn
      simp only [Except.ok.injEq, Prod.mk.injEq] at e
      obtain ⟨rfl, rfl⟩ := e
      refine ⟨hn, ⟨_, rfl⟩, fun h0 => ?_⟩
      have hl : (joinPath h.tempDir "devboxvm-" ++ toString (h.rand h.drawn % UInt32.size)).length = 0 := by
        rw [h0]; rfl
      have := length_joinPath h.tempDir "devboxvm-"
      rw [String.length_append] at hl
      have h9 : "devboxvm-".length = 9 := rfl
      omega
    · have ih := mkdirTempLoop_spec tries e
      exact ih

theorem mkdirTemp_spec {r : String} (e : h.mkdirTemp = .ok (r, h')) :
    h.fs ⟨r, []⟩ = none ∧ (∃ n, h' = { h.setNode ⟨r, []⟩ .dir with drawn := n }) ∧ r ≠ "" :=
  mkdirTempLoop_spec _ e

theorem mkdirTemp_grows {r : String} (e : h.mkdirTemp = .ok (r, h')) : h.Grows h' := by
  obtain ⟨hn, ⟨n, rfl⟩, -⟩ := mkdirTemp_spec e
  have g := grows_setNode (n := .dir) (.inl hn)
  exact ⟨g.dir, g.file, g.symlink⟩

theorem mkdirTemp_keeps {r : String} (e : h.mkdirTemp = .ok (r, h')) (q : Path) : h.Keeps h' q := by
  obtain ⟨hn, ⟨n, rfl⟩, -⟩ := mkdirTemp_spec e
  exact fun hq => setNode_fs_ne h _ fun hqp => by subst hqp; exact hq hn

theorem truncate_grows {size : Int} (e : h.truncate p size = .ok h') : h.Grows h' := by
  unfold truncate at e
  split at e
  · cases e
  · split at e
    · cases e; exact grows_setNode (.inr ⟨⟨_, ‹_›⟩, _, rfl⟩)
    · cases e; exact Grows.refl h

theorem truncate_keeps {size : Int} (e : h.truncate p size = .ok h') (hq : q ≠ p) : h.Keeps h' q := by
  unfold truncate at e
  split at e
  · cases e
  · split at e
    · cases e; exact keeps_setNode_ne _ hq
    · cases e; exact Keeps.refl h q

theorem write_grows (p : Path) (text : List Char) : h.Grows (h.write p text) := by
  unfold write; split
  · exact grows_setNode (.inr ⟨⟨_, ‹_›⟩, _, rfl⟩)
  · exact Grows.refl h

theorem write_keeps (text : List Char) (hq : q ≠ p) : h.Keeps (h.write p text) q := by
  unfold write; split
  · exact keeps_setNode_ne _ hq
  · exact Keeps.refl h q

theorem setTermios_fs {t : Termios} (e : h.setTermios t = .ok h') : h'.fs = h.fs := by
  unfold setTermios at e; split at e <;> cases e; rfl

/-- A host with the same file system grows from `h`. -/
theorem Grows.of_fs_eq (hfs : h'.fs = h.fs) : h.Grows h' :=
  ⟨fun _ hp => hfs ▸ hp, fun _ d hp => ⟨d, hfs ▸ hp⟩, fun _ _ hp => hfs ▸ hp⟩

end Host

end Jetpack
