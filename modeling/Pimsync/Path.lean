import Pimsync.Base.LexPath
import Pimsync.Scfg

/-!
# Paths

`Utf8PathBuf::join`, and `expand_tilde`, which panics if the home directory is not known.
-/

namespace Pimsync

/-- How a computation goes wrong. -/
inductive Fault
  | err (e : Error)
  | panic (msg : String)

/-- `.context(msg)`; a panic passes it by. -/
def Fault.context (msg : String) : Fault → Fault
  | .err e => .err (msg :: e)
  | .panic p => .panic p

/-- `Utf8PathBuf::join`: an absolute path takes the place of the base. -/
def pathJoin (base path : String) : String :=
  if path.toList.head? = some '/' then path
  else if base = "" ∨ base.toList.getLast? = some '/' then base ++ path
  else base ++ "/" ++ path

/-- `Utf8PathBuf::join` is the join of paths. -/
theorem pathJoin_toList (base path : String) : (pathJoin base path).toList =
    LexPath.join base.toList path.toList := by
  rw [pathJoin, LexPath.join]
  by_cases hpath : path.toList.head? = some '/'
  · rw [if_pos hpath, if_pos hpath]
  · rw [if_neg hpath, if_neg hpath]
    by_cases hbase : base = "" ∨ base.toList.getLast? = some '/'
    · rw [if_pos hbase, if_pos (hbase.imp (by rintro rfl; rfl) id), String.toList_append]
    · rw [if_neg hbase, if_neg (mt (Or.imp String.toList_eq_nil_iff.mp id) hbase)]
      simp [String.toList_append]

/-- What `home_dir` finds. -/
inductive Home
  | unknown
  | notUtf8 (e : Error)
  | dir (path : String)

/-- `expand_tilde`. -/
def expandTilde (home : Home) (orig : String) : Except Fault String :=
  match orig.toList with
  | '~' :: '/' :: rest =>
    match home with
    | .unknown => .error (.panic "must resolve home path to expand tilde")
    | .notUtf8 e => .error (.err e)
    | .dir home => .ok (pathJoin home (String.ofList rest))
  | _ => .ok orig

end Pimsync
