import NamedLock.Proofs.Memory.Marks
import NamedLock.Proofs.Postgres.Replies

/-!
# Closing — one rule for both kinds of sessions

A session in memory keeps a flag, a session on a server gives its transaction away. To their owners this comes to the
same, so that what is tested on the one holds for the other.
-/

namespace NamedLock

/-- Both kinds of sessions obey the closing rule, whatever other sessions do, whichever switches are on, and whatever
the server replies. Once a commit has been answered, every request for the number, for a lock or for a commit is
refused as finished, and the state stays as it is: nothing is sent, and no lock, queue, slot or count changes. Before
that no request is refused in this way. -/
theorem backends_obey_closing_rule :
    Memory.backend.ClosingRule Memory.Outside ∧ Postgres.backend.ClosingRule Postgres.Outside :=
  ⟨Memory.backend_marks.closingRule, Postgres.backend_marks.closingRule⟩

/-- A commit that fails ends a session, too. -/
example : ∃ st, Memory.backend.Dealings Memory.Outside 1 none true st ∧ st.committed = 0 := by
  have hbegin : Memory.backend.answer .first 1 .begin {} = (.ready (.ok ()), _) := rfl
  have hcommit : ∀ st : Memory.State, Memory.backend.answer .first 1 .commit st = (.ready (st.commit 1).1, (st.commit 1).2) :=
    fun _ => rfl
  exact ⟨_, .answered (.meanwhile (.begun hbegin) (.intrudes (.switches _ (.commits true)))) (by simp) (hcommit _), rfl⟩

/-- So does a commit that the server refuses. -/
example : ∃ st, Postgres.backend.Dealings Postgres.Outside 1 none true st := by
  have hbegin : Postgres.backend.answer .first 1 .begin { upcoming := [[none, some "out of memory"]] } =
      (.ready (.ok ()), _) := rfl
  exact ⟨_, .answered (.begun hbegin) (by simp) (show Postgres.backend.answer .first 1 .commit _ = _ from rfl)⟩

end NamedLock
