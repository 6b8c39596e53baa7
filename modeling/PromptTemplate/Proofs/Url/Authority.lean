import PromptTemplate.Proofs.Outcome
import PromptTemplate.Url.Parser
/-!
# PromptTemplate — which addresses have a host

Reading an address keeps the host and the scheme once they are there: a
path, a query and a fragment are put behind them. A scheme that browsers
know has an authority, and files have at least the empty host, so only an
address under some other scheme can be without a host
(`hasAuthority_of_parse`).
-/

namespace PromptTemplate

namespace Url

variable {u base : Url} {cs : List Char} {scheme : String}

/-! ## What stays -/

@[simp] theorem host_withTail (u : Url) (cs : List Char) : (u.withTail cs).host = u.host := rfl

@[simp] theorem host_withPath (u : Url) (before : List String) (cs : List Char) :
    (u.withPath before cs).host = u.host := rfl

@[simp] theorem host_withPathStart (u : Url) (cs : List Char) :
    (u.withPathStart cs).host = u.host := by
  unfold withPathStart
  cases cs with
  | nil =>
    dsimp only
    split <;> simp
  | cons c rest =>
    dsimp only
    split
    · simp
    · split <;> simp

/-! ## Hosts -/

/-- An address has a host, unless browsers do not know its scheme. -/
def HasAuthority (u : Url) : Prop := u.host.isSome = true ∨ schemeKind u.scheme = .other

/-- Behind two slashes there is a host. -/
theorem isSome_host_of_withAuthority (h : withAuthority scheme cs = .ok u) :
    u.host.isSome = true := by
  simp only [withAuthority, bind, Except.bind, pure, Except.pure, throw, throwThe,
    MonadExceptOf.throw] at h
  -- every way to succeed ends in reading the path behind the host
  repeat' split at h
  all_goals cases h
  all_goals simp

theorem isSome_host_fileOn (host : Host) (cs : List Char) : (fileOn host cs).host.isSome = true := by
  unfold fileOn
  dsimp only
  split <;> simp

theorem isSome_host_of_fileHost (h : fileHost cs = .ok u) : u.host.isSome = true := by
  unfold fileHost at h
  dsimp only at h
  split at h
  · cases h
    exact isSome_host_fileOn _ _
  · obtain ⟨host, -, hu⟩ := Outcome.bind_eq_ok.1 h
    cases hu
    exact isSome_host_fileOn _ _

/-- The address of a file has a host if that of the file has that it is
relative to. -/
theorem isSome_host_of_fileFrom (hbase : base.host.isSome = true) (h : fileFrom base cs = .ok u) :
    u.host.isSome = true := by
  unfold fileFrom at h
  split at h
  · cases h
    exact hbase
  · cases h
    exact hbase
  · cases h
    exact hbase
  · split at h
    · split at h
      · split at h
        · exact isSome_host_of_fileHost h
        · split at h
          · cases h
            exact isSome_host_fileOn _ _
          · cases h
            rw [host_withPath]
            dsimp only
            split
            · exact hbase
            · rfl
      · cases h
        exact hbase
    · split at h
      · cases h
        exact isSome_host_fileOn _ _
      · cases h
        exact hbase

/-- **An address that is read by itself** has a host, unless browsers do not
know its scheme. -/
theorem hasAuthority_of_parse {text : String} (h : parse none text = .ok u) : HasAuthority u := by
  unfold parse at h
  dsimp only at h
  split at h
  · rename_i scheme rest _
    unfold behindScheme at h
    dsimp only [Option.filter_none, Option.getD_none] at h
    split at h
    · exact .inl (isSome_host_of_fileFrom rfl h)
    · exact .inl (isSome_host_of_withAuthority h)
    · rename_i hother
      split at h
      · exact .inl (isSome_host_of_withAuthority h)
      -- what has no authority keeps its scheme
      · cases h
        exact .inr hother
      · cases h
        exact .inr hother
  · cases h

end Url

end PromptTemplate
