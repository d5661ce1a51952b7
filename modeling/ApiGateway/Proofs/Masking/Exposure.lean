import ApiGateway.Proofs.Masking.Names
import ApiGateway.Proofs.Masking.Secrecy
import Mathlib.Data.List.Perm.Subperm

/-! # Secrets that the token exposes

A masker hides a secret of at least four bytes from every text just if its token does not expose the
secret (`hides_iff_not_exposes`). If it does, with some beginning of the secret before it and some
end behind it, then a text that holds another secret between these two becomes a text that holds the
first one. The other secret may be a run of one character that keeps the text free of the first
secret (`not_infix_around`), and that is found only where it is meant to be
(`replaceFrom_around`).
-/

set_option autoImplicit false

namespace ApiGateway

namespace Masker

/-! ## A run of one character -/

section

variable {word : List Char} {c : Char} {i j n : Nat}

/-- A run of a character that is neither the first one of a word nor the one behind some beginning
keeps this beginning and an end of the word apart. -/
theorem not_infix_around (hi : i < word.length) (hn : word.length ≤ n) (hfirst : word[0]? ≠ some c)
    (hnext : word[i]? ≠ some c) :
    ¬ word <:+: word.take i ++ (List.replicate n c ++ word.drop (j + 1)) := by
  rintro ⟨before, after, h⟩
  have hrun : ∀ k, i ≤ k → k < i + n →
      (word.take i ++ (List.replicate n c ++ word.drop (j + 1)))[k]? = some c := by
    intro k hik hkn
    have hlength : (word.take i).length = i := List.length_take_of_le (Nat.le_of_lt hi)
    rw [List.getElem?_append_right (by omega), hlength, List.getElem?_append_left (by simp; omega),
      List.getElem?_replicate, if_pos (by omega)]
  have hword : ∀ k, k < word.length →
      (word.take i ++ (List.replicate n c ++ word.drop (j + 1)))[before.length + k]? =
        word[k]? := by
    intro k hk
    rw [← h, List.append_assoc, List.getElem?_append_right (Nat.le_add_right _ _),
      Nat.add_sub_cancel_left, List.getElem?_append_left hk]
  have hlength := congrArg List.length h
  simp only [List.length_append, List.length_take, List.length_replicate, List.length_drop]
    at hlength
  rcases Nat.lt_or_ge before.length i with hlt | hge
  · -- the occurrence begins before the run, and reaches into it
    exact hnext (hword i hi ▸ hrun (before.length + i) (by omega) (by omega))
  · -- it begins in the run, as there is no room for it behind
    exact hfirst (hword 0 (by omega) ▸ hrun (before.length + 0) (by omega) (by omega))

/-- If it is not the last one of the beginning either, the run is found where it stands. -/
theorem replaceFrom_around (hi : i < word.length) (hn : word.length ≤ n)
    (hlast : (word.take i).getLast? ≠ some c) (replacement : List Char) :
    Text.replaceFrom (List.replicate n c) replacement 0
        (word.take i ++ (List.replicate n c ++ word.drop (j + 1))) =
      word.take i ++ (replacement ++ word.drop (j + 1)) := by
  have hne : List.replicate n c ≠ [] := by
    refine List.ne_nil_of_length_pos ?_
    rw [List.length_replicate]
    omega
  have hrest : Text.replaceFrom (List.replicate n c) replacement 0 (word.drop (j + 1)) =
      word.drop (j + 1) := by
    refine (Text.replaced_replaceFrom hne replacement 0 _).eq_of_absent fun hoccurs => ?_
    have hle := hoccurs.length_le
    rw [List.length_replicate, List.drop_zero, List.length_drop] at hle
    omega
  rw [Text.replaceFrom_append, Text.replaceFrom_pattern_append hne, hrest]
  -- an occurrence that begins earlier would take in the last character before the run
  rintro u hu hsuffix ⟨after, hfront⟩
  obtain ⟨v, d, rfl⟩ := (List.eq_nil_or_concat' u).resolve_left hu
  obtain ⟨before, hbefore⟩ := hsuffix
  have hlength : v.length < n := by
    have hle := congrArg List.length hbefore
    simp only [List.length_append, List.length_singleton, List.length_take] at hle
    omega
  have hat := congrArg (·[v.length]?) hfront
  simp only [List.append_assoc, List.getElem?_append_left, List.length_replicate, hlength,
    List.getElem?_replicate, if_true, List.getElem?_append_right (Nat.le_refl v.length),
    Nat.sub_self, List.singleton_append, List.getElem?_cons_zero] at hat
  rw [← hbefore, ← List.append_assoc, List.getLast?_concat] at hlast
  exact hlast hat.symm

/-- Some character of one byte is not among three others. -/
theorem exists_plain_not_mem (avoid : List Char) (h : avoid.length ≤ 3) :
    ∃ c : Char, c.utf8Size = 1 ∧ c ∉ avoid := by
  refine Classical.byContradiction fun hnone => ?_
  have hsubset : ['a', 'b', 'c', 'd'] ⊆ avoid := by
    intro c hc
    refine Classical.byContradiction fun hmem => hnone ⟨c, ?_, hmem⟩
    simp only [List.mem_cons, List.not_mem_nil, or_false] at hc
    rcases hc with rfl | rfl | rfl | rfl <;> rfl
  have hle := (List.Nodup.subperm (by decide) hsubset).length_le
  rw [List.length_cons, List.length_cons, List.length_cons, List.length_cons] at hle
  omega

theorem length_le_utf8ByteSize (s : String) : s.toList.length ≤ s.utf8ByteSize := by
  have key : ∀ cs : List Char, cs.length ≤ (String.ofList cs).utf8ByteSize := by
    intro cs
    induction cs with
    | nil => exact Nat.zero_le _
    | cons c cs ih =>
        rw [String.ofList_cons, String.utf8ByteSize_append, String.utf8ByteSize_singleton,
          List.length_cons, Nat.add_comm]
        exact Nat.add_le_add c.utf8Size_pos ih
  have hle := key s.toList
  rw [String.ofList_toList] at hle
  exact hle

theorem utf8ByteSize_replicate {c : Char} (hc : c.utf8Size = 1) (n : Nat) :
    (String.ofList (List.replicate n c)).utf8ByteSize = n := by
  induction n with
  | zero => rfl
  | succ n ih =>
      rw [List.replicate_succ, String.ofList_cons, String.utf8ByteSize_append,
        String.utf8ByteSize_singleton, ih, hc, Nat.add_comm]

end

/-! ## Two secrets -/

theorem secrets_addSecret {m : Masker} {secret : String} (hsecret : secret ≠ "")
    (hnew : secret ∉ m.secrets) :
    (m.addSecret secret).secrets = insertSecret secret m.secrets := by
  unfold addSecret
  rw [if_neg (by simp [hsecret, hnew])]

/-- Of two secrets with as many bytes the one that was added first comes first. -/
theorem secrets_addSecret_addSecret (token : String) {secret other : String} (hsecret : secret ≠ "")
    (hother : other ≠ "") (hne : other ≠ secret)
    (hsize : other.utf8ByteSize = secret.utf8ByteSize) :
    (((new token).addSecret secret).addSecret other).secrets = [secret, other] := by
  have hone : ((new token).addSecret secret).secrets = [secret] :=
    secrets_addSecret hsecret List.not_mem_nil
  rw [secrets_addSecret hother (by rw [hone]; simpa using hne), hone, insertSecret,
    if_pos (Nat.le_of_eq hsize), insertSecret]

theorem ne_empty_of_long {secret : String} (h : minPartBytes ≤ secret.utf8ByteSize) :
    secret ≠ "" := by
  rintro rfl
  exact absurd h (by decide)

section

variable {token secret : String}

/-- A secret that does not occur in a text leaves it to the secrets behind. -/
theorem maskWith_cons_of_absent (hsecret : secret ≠ "") {text : String}
    (hno : ¬ secret.toList <:+: text.toList) (rest : List String) :
    maskWith token (secret :: rest) text = maskWith token rest text := by
  have hne : text ≠ secret := by
    rintro rfl
    exact hno List.infix_rfl
  have hkept := (replaced_replaceAll hsecret token.toList text.toList).eq_of_absent hno
  rw [maskWith, if_neg hne, hkept, String.ofList_toList, ite_self]

/-- A single secret of at least four bytes is replaced; where it is all of the text too. -/
theorem maskWith_singleton (hlong : minPartBytes ≤ secret.utf8ByteSize) (text : String) :
    maskWith token [secret] text =
      String.ofList (Text.replaceFrom secret.toList token.toList 0 text.toList) := by
  have hne : secret.toList ≠ [] := fun e => ne_empty_of_long hlong (String.toList_eq_nil_iff.1 e)
  by_cases hall : text = secret
  · have hwhole : Text.replaceFrom secret.toList token.toList 0 (secret.toList ++ []) =
        token.toList ++ [] := Text.replaceFrom_pattern_append hne []
    rw [List.append_nil, List.append_nil] at hwhole
    rw [maskWith, if_pos hall, hall, hwhole, String.ofList_toList]
  · rw [maskWith, if_neg hall, if_pos hlong, maskWith, replaceAll_eq_replaceFrom hne]

/-- Between a beginning and an end of a secret, a run of a character that avoids the secret becomes
the token. -/
theorem maskWith_around (hlong : minPartBytes ≤ secret.utf8ByteSize) {i j : Nat}
    (hi : i < secret.toList.length) {c : Char} (hplain : c.utf8Size = 1)
    (hfirst : secret.toList[0]? ≠ some c) (hnext : secret.toList[i]? ≠ some c)
    (hlast : (secret.toList.take i).getLast? ≠ some c) {run : List Char}
    (hrun : run = List.replicate secret.utf8ByteSize c) :
    maskWith token [secret, String.ofList run]
        (String.ofList (secret.toList.take i ++ (run ++ secret.toList.drop (j + 1)))) =
      String.ofList (secret.toList.take i ++ (token.toList ++ secret.toList.drop (j + 1))) := by
  have hn := length_le_utf8ByteSize secret
  have hno := not_infix_around (j := j) hi hn hfirst hnext
  have hreplaced := replaceFrom_around (j := j) hi hn hlast token.toList
  have hsize : (String.ofList run).utf8ByteSize = secret.utf8ByteSize :=
    hrun ▸ utf8ByteSize_replicate hplain _
  rw [← hrun, ← String.toList_ofList (l := secret.toList.take i ++ _)] at hno
  rw [maskWith_cons_of_absent (ne_empty_of_long hlong) hno, maskWith_singleton (hsize ▸ hlong),
    String.toList_ofList, String.toList_ofList, hrun, hreplaced]

end

/-- Some masker with the token and the secret makes a text that shows the secret. -/
theorem exists_shown {token secret : String} (hlong : minPartBytes ≤ secret.utf8ByteSize)
    (h : Text.Exposes token.toList secret.toList) :
    ∃ (m : Masker) (text : String), m.Made ∧ m.token = token ∧ secret ∈ m.secrets ∧
      secret.toList <:+: (m.maskText text).toList := by
  obtain ⟨i, hi, j, hj, hshown⟩ := Text.exposes_iff.1 h
  -- the run avoids three characters of the secret
  obtain ⟨c, hplain, havoid⟩ := exists_plain_not_mem [secret.toList.getD 0 'a',
    secret.toList.getD i 'a', (secret.toList.take i).getLast?.getD 'a'] (Nat.le_refl 3)
  have hfirst : secret.toList[0]? ≠ some c := fun e => havoid (by simp [List.getD, e])
  have hnext : secret.toList[i]? ≠ some c := fun e => havoid (by simp [List.getD, e])
  have hlast : (secret.toList.take i).getLast? ≠ some c := fun e => havoid (by simp [e])
  let other := String.ofList (List.replicate secret.utf8ByteSize c)
  have hsize : other.utf8ByteSize = secret.utf8ByteSize := utf8ByteSize_replicate hplain _
  have hne : other ≠ secret := by
    intro heq
    refine hfirst ?_
    rw [← heq, String.toList_ofList, List.getElem?_replicate,
      if_pos (Nat.lt_of_lt_of_le (by decide) hlong)]
  have hsecrets := secrets_addSecret_addSecret token (ne_empty_of_long hlong)
    (ne_empty_of_long (hsize ▸ hlong)) hne hsize
  have htoken : (((new token).addSecret secret).addSecret other).token = token := by
    rw [token_addSecret, token_addSecret]
    rfl
  refine ⟨((new token).addSecret secret).addSecret other,
    String.ofList (secret.toList.take i ++
      (List.replicate secret.utf8ByteSize c ++ secret.toList.drop (j + 1))),
    ((Made.new token).addSecret secret).addSecret other, htoken, ?_, ?_⟩
  · rw [hsecrets]
    exact List.mem_cons_self
  · rw [maskText, hsecrets, htoken, maskWith_around hlong hi hplain hfirst hnext hlast rfl,
      String.toList_ofList]
    exact hshown

/-- A masker hides a secret of at least four bytes from every text, whatever else it knows, just if
its token does not expose the secret. -/
theorem hides_iff_not_exposes {secret : String} (hlong : minPartBytes ≤ secret.utf8ByteSize)
    (token : String) :
    (∀ m : Masker, m.Made → m.token = token → secret ∈ m.secrets → ∀ text,
        ¬ secret.toList <:+: (m.maskText text).toList) ↔
      ¬ Text.Exposes token.toList secret.toList := by
  constructor
  · intro hhides hexposes
    obtain ⟨m, text, hmade, htoken, hmem, hshown⟩ := exists_shown hlong hexposes
    exact hhides m hmade htoken hmem text hshown
  · rintro hexposes m hmade rfl hmem text
    exact not_infix_maskWith_of_mem hmade.ne_empty hmem hlong hexposes text

/-- The usual token has letters in common with a key, but does not expose it. -/
theorem hides_iff_not_exposes_masterKey :
    minPartBytes ≤ "MASTER-KEY".utf8ByteSize ∧
      ∀ m : Masker, m.Made → m.token = defaultToken → "MASTER-KEY" ∈ m.secrets → ∀ text,
        ¬ "MASTER-KEY".toList <:+: (m.maskText text).toList :=
  ⟨by decide, (hides_iff_not_exposes (by decide) defaultToken).2 (by decide +kernel)⟩

/-- A key that begins with the last character of the usual token. -/
def bracketKey : Masker := (new defaultToken).addSecret "]k9Zp4"

/-- The token that takes the place of the key makes up the key again with the text behind it. -/
theorem maskText_shows_bracketKey :
    bracketKey.maskText "]k9Zp4k9Zp4" = "[MASKED]k9Zp4" ∧
      ¬ ∀ m : Masker, m.Made → ∀ secret ∈ m.secrets, minPartBytes ≤ secret.utf8ByteSize →
        ∀ text, ¬ secret.toList <:+: (m.maskText text).toList := by
  have hmask : bracketKey.maskText "]k9Zp4k9Zp4" = "[MASKED]k9Zp4" := by decide +kernel
  refine ⟨hmask, fun h => ?_⟩
  refine h bracketKey ((Made.new _).addSecret _) "]k9Zp4" (by decide +kernel) (by decide)
    "]k9Zp4k9Zp4" ?_
  rw [hmask]
  decide +kernel

end Masker

end ApiGateway
