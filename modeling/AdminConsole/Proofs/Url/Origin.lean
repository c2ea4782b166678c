/-
# `Proofs.Url.Origin` — which references stay on the server of their base

A reference without a scheme is read relative to a base.  Whatever it does to the
path, it keeps scheme, host and port, except in two cases: it begins with two
slashes, so that an authority follows (`namesAuthority`); or base and reference
are about files, and a drive takes the place of the host (`namesDrive`).  The
slashes may be turned either way.

In all other cases a reference can be read, and what comes of it is on the server
of its base (`join_sameOrigin`).  The scheme is kept in any case, and so are the
parts that every base has (`rooted_join`).
-/
import AdminConsole.Proofs.Except
import AdminConsole.Proofs.Text.Integer
import AdminConsole.Proofs.Text.Pieces
import AdminConsole.Url.Resolve

namespace AdminConsole.Url

/-- Two URLs are of the same server. -/
structure SameOrigin (u v : Url) : Prop where
  scheme : v.scheme = u.scheme
  host : v.host = u.host
  port : v.port = u.port

theorem SameOrigin.trans {u v w : Url} (h : SameOrigin u v) (h' : SameOrigin v w) :
    SameOrigin u w where
  scheme := h'.scheme.trans h.scheme
  host := h'.host.trans h.host
  port := h'.port.trans h.port

/-- What every URL has that others can be relative to. -/
structure Rooted (u : Url) : Prop where
  segments : u.cannotBeBase = false
  fileHost : u.scheme = "file" → u.host.isSome = true
  filePort : u.scheme = "file" → u.port = none

/-- Whether a reference begins with two slashes, so that an authority follows. -/
def namesAuthority : List Char → Bool
  | a :: b :: _ => isSlash true a && isSlash true b
  | _ => false

/-- Whether a drive takes the place of the host, in a reference that names no authority: one at its
front, or one in front of the base of a path that begins with a slash. -/
def namesDrive (base : Url) (cs : List Char) : Bool :=
  base.scheme == "file" &&
    match (cutTail cs).1 with
    | [] => false
    | a :: r =>
      if isSlash true a then isDrive (firstSegment r) || driveOf (some base) != []
      else isDrive (firstSegment (a :: r))

/-! ## What precedes query and fragment -/

theorem front_cutAt (sep : Char) (cs : List Char) : (cutAt sep cs).1 <+: cs := by
  rcases @Text.splitFirst_cases sep cs with ⟨-, h⟩ | ⟨p, r, -, hcs, h⟩
  · have hcut : cutAt sep cs = (cs, none) := by simp only [cutAt, h]
    exact hcut ▸ List.prefix_refl cs
  · have hcut : cutAt sep cs = (p, some r) := by simp only [cutAt, h]
    rw [hcut, hcs]
    exact List.prefix_append p (sep :: r)

theorem front_cutTail (cs : List Char) : (cutTail cs).1 <+: cs :=
  (front_cutAt '?' (cutAt '#' cs).1).trans (front_cutAt '#' cs)

theorem not_isSlash_of_front {cs : List Char} (h : namesAuthority cs = false) {a b : Char}
    {r : List Char} (hfront : (cutTail cs).1 = a :: b :: r) (ha : isSlash true a = true) :
    isSlash true b = false := by
  obtain ⟨tail, htail⟩ := front_cutTail cs
  rw [hfront] at htail
  rw [← htail] at h
  simp only [List.cons_append, namesAuthority] at h
  rw [ha, Bool.true_and] at h
  exact h

/-! ## References that stay -/

/-- A reference that names no authority replaces path, query and fragment only. -/
theorem readReference_sameOrigin (base : Url) {cs : List Char} (h : namesAuthority cs = false) :
    ∃ u, readReference base cs = .ok u ∧ SameOrigin base u := by
  simp only [readReference]
  split
  next => exact ⟨_, rfl, rfl, rfl, rfl⟩
  next a r hfront =>
    split
    next ha =>
      cases r with
      | nil => exact ⟨_, rfl, rfl, rfl, rfl⟩
      | cons b r =>
          have hb : isSlash true b = false := not_isSlash_of_front h hfront ha
          simp only [List.head?_cons, Option.map_some, Option.getD_some, hb]
          exact ⟨_, rfl, rfl, rfl, rfl⟩
    next => exact ⟨_, rfl, rfl, rfl, rfl⟩

theorem fileHost_eq {base : Url} (h : base.host.isSome = true) :
    some (fileHost (some base)) = base.host := by
  obtain ⟨host, hhost⟩ := Option.isSome_iff_exists.mp h
  simp only [fileHost, Option.bind_some]
  rw [hhost]
  rfl

theorem host_readFileAfterSlash {base : Option Url} {cs : List Char}
    (h : isDrive (firstSegment cs) = false) (hbase : driveOf base = []) :
    (readFileAfterSlash base cs).1 = fileHost base := by
  simp only [readFileAfterSlash, h, hbase]
  rfl

theorem host_readFileRelative {base : Option Url} {cs : List Char}
    (h : isDrive (firstSegment cs) = false) : (readFileRelative base cs).1 = fileHost base := by
  simp only [readFileRelative, h]
  rfl

theorem readFile_sameOrigin {base : Url} (hbase : Rooted base) (hfile : base.scheme = "file")
    {cs : List Char} (h : namesAuthority cs = false) (hdrive : namesDrive base cs = false) :
    ∃ u, readFile (some base) cs = .ok u ∧ SameOrigin base u := by
  have stays : ∀ {host : Host} names query fragment, host = fileHost (some base) →
      SameOrigin base (fileUrl host names query fragment) := by
    rintro host names query fragment rfl
    exact ⟨hfile.symm, fileHost_eq (hbase.fileHost hfile), (hbase.filePort hfile).symm⟩
  simp only [namesDrive, hfile, beq_self_eq_true, Bool.true_and] at hdrive
  cases hfront : (cutTail cs).1 with
  | nil =>
      simp only [readFile, hfront]
      exact ⟨_, rfl, rfl, rfl, rfl⟩
  | cons a r =>
      simp only [hfront] at hdrive
      cases ha : isSlash true a with
      | false =>
          rw [ha, if_neg Bool.false_ne_true] at hdrive
          simp only [readFile, hfront, ha]
          exact ⟨_, rfl, stays _ _ _ (host_readFileRelative hdrive)⟩
      | true =>
          rw [ha, if_pos rfl, Bool.or_eq_false_iff, bne_eq_false_iff_eq] at hdrive
          have hhost := host_readFileAfterSlash hdrive.1 hdrive.2
          cases r with
          | nil =>
              simp only [readFile, hfront, ha]
              exact ⟨_, rfl, stays _ _ _ hhost⟩
          | cons b r =>
              have hb : isSlash true b = false := not_isSlash_of_front h hfront ha
              simp only [readFile, hfront, ha, hb]
              exact ⟨_, rfl, stays _ _ _ hhost⟩

theorem join_eq {base : Url} (hbase : Rooted base) {s : String}
    (hscheme : splitScheme (clean s) = none) :
    base.join s =
      if base.scheme = "file" then readFile (some base) (clean s)
      else readReference base (clean s) := by
  simp only [join, resolve]
  rw [hscheme]
  cases hpath : base.path with
  | plain text =>
      have hplain := hbase.segments
      simp only [cannotBeBase, hpath] at hplain
      cases hplain
  | segments names => simp only [readRelative, hpath]

/-- **A reference that names neither an authority nor a drive stays on the server of its base**, and it
can be read. -/
theorem join_sameOrigin {base : Url} (hbase : Rooted base) {s : String}
    (hscheme : splitScheme (clean s) = none) (hauthority : namesAuthority (clean s) = false)
    (hdrive : namesDrive base (clean s) = false) :
    ∃ u, base.join s = .ok u ∧ SameOrigin base u := by
  rw [join_eq hbase hscheme]
  split
  next hfile => exact readFile_sameOrigin hbase hfile hauthority hdrive
  next => exact readReference_sameOrigin base hauthority

/-! ## Texts that say nothing but a path -/

theorem clean_eq_self {s : String} (h : ∀ c ∈ s.toList, isOuterBlank c = false) :
    clean s = s.toList := by
  simp only [clean]
  rw [Text.dropWhile_eq_self h,
    Text.dropWhile_eq_self fun c hc => h c (List.mem_reverse.mp hc), List.reverse_reverse]
  refine List.filter_eq_self.mpr fun c hc => ?_
  have hc := h c hc
  have hinner : ∀ d : Char, isOuterBlank d = true → c ≠ d := by
    rintro d hd rfl
    rw [hd] at hc
    cases hc
  simp only [Bool.and_eq_true, bne_iff_ne]
  exact ⟨⟨hinner '\t' rfl, hinner '\n' rfl⟩, hinner '\r' rfl⟩

theorem splitScheme_eq_none {cs : List Char} (h : ':' ∉ cs) : splitScheme cs = none := by
  cases cs with
  | nil => rfl
  | cons c r =>
      simp only [splitScheme]
      split
      next =>
        split
        next rest hrest =>
          have hcolon : ':' ∈ r.dropWhile isSchemeChar := by
            rw [hrest]
            exact List.mem_cons_self
          exact absurd (List.mem_cons_of_mem c (List.dropWhile_sublist _ |>.mem hcolon)) h
        next => rfl
      next => rfl

theorem isDrive_eq_false {cs : List Char} (hcolon : ':' ∉ cs) (hbar : '|' ∉ cs) :
    isDrive cs = false := by
  match cs with
  | [a, b] =>
      have hb : b ≠ ':' ∧ b ≠ '|' :=
        ⟨fun he => hcolon (by simp [he]), fun he => hbar (by simp [he])⟩
      simp only [isDrive, beq_eq_false_iff_ne.mpr hb.1, beq_eq_false_iff_ne.mpr hb.2, Bool.or_self,
        Bool.and_false]
  | [] => rfl
  | [_] => rfl
  | _ :: _ :: _ :: _ => rfl

/-- Texts that stay on the server of any base: they begin with no slash, and have neither colons nor
bars. -/
structure StaysBelow (cs : List Char) : Prop where
  start : ∀ c r, cs = c :: r → isSlash true c = false
  colon : ':' ∉ cs
  bar : '|' ∉ cs

theorem StaysBelow.namesAuthority {cs : List Char} (h : StaysBelow cs) :
    namesAuthority cs = false := by
  match cs with
  | a :: b :: r =>
      simp only [Url.namesAuthority, h.start a (b :: r) rfl, Bool.false_and]
  | [] => rfl
  | [_] => rfl

theorem StaysBelow.namesDrive {cs : List Char} (h : StaysBelow cs) (base : Url) :
    namesDrive base cs = false := by
  obtain ⟨tail, htail⟩ := front_cutTail cs
  simp only [Url.namesDrive]
  cases hfront : (cutTail cs).1 with
  | nil => exact Bool.and_false _
  | cons a r =>
      rw [hfront] at htail
      have ha : isSlash true a = false := h.start a (r ++ tail) htail.symm
      have hmem : ∀ c ∈ firstSegment (a :: r), c ∈ cs := by
        intro c hc
        rw [← htail]
        exact List.mem_append_left tail ((List.takeWhile_sublist _).mem hc)
      have hdrive : isDrive (firstSegment (a :: r)) = false :=
        isDrive_eq_false (fun hc => h.colon (hmem _ hc)) (fun hc => h.bar (hmem _ hc))
      simp only [ha, hdrive]
      exact Bool.and_false _

theorem join_staysBelow {base : Url} (hbase : Rooted base) {s : String}
    (hblank : ∀ c ∈ s.toList, isOuterBlank c = false) (h : StaysBelow s.toList) :
    ∃ u, base.join s = .ok u ∧ SameOrigin base u := by
  have hclean : clean s = s.toList := clean_eq_self hblank
  apply join_sameOrigin hbase
  · rw [hclean]
    exact splitScheme_eq_none h.colon
  · rw [hclean]
    exact h.namesAuthority
  · rw [hclean]
    exact h.namesDrive base

/-! ## What is read can be a base again -/

theorem rooted_of_ne_file {u : Url} (hsegments : u.cannotBeBase = false) (h : u.scheme ≠ "file") :
    Rooted u := ⟨hsegments, fun hfile => absurd hfile h, fun hfile => absurd hfile h⟩

theorem rooted_fileUrl (host : Host) (names : List String) (query fragment : Option (List Char)) :
    Rooted (fileUrl host names query fragment) := ⟨rfl, fun _ => rfl, fun _ => rfl⟩

theorem readAfterSlashes_ok {scheme : String} {cs : List Char} {u : Url}
    (h : readAfterSlashes scheme cs = .ok u) : u.scheme = scheme ∧ u.cannotBeBase = false := by
  have hsegments : ∀ special path, ∃ names, readPathStart special path = .segments names := by
    intro special path
    cases path with
    | nil => exact ⟨_, rfl⟩
    | cons c r =>
        simp only [readPathStart]
        split <;> exact ⟨_, rfl⟩
  simp only [readAfterSlashes] at h
  obtain ⟨read, -, h⟩ := bind_eq_ok.mp h
  cases h
  obtain ⟨names, hnames⟩ := hsegments (isSpecial scheme) _
  refine ⟨rfl, ?_⟩
  simp only [cannotBeBase]
  rw [hnames]

theorem readFile_ok {base : Option Url} {cs : List Char} {u : Url}
    (h : readFile base cs = .ok u) :
    (∃ host names query fragment, u = fileUrl host names query fragment) ∨
      ∃ b query fragment, base = some b ∧ u = { b with query, fragment } := by
  simp only [readFile] at h
  split at h
  next => cases h; exact .inl ⟨_, _, _, _, rfl⟩
  next => cases h; exact .inr ⟨_, _, _, rfl, rfl⟩
  next a r _ =>
    split at h
    next => cases h; exact .inl ⟨_, _, _, _, rfl⟩
    next =>
      split at h
      next =>
        split at h
        next =>
          obtain ⟨⟨host, names⟩, -, h⟩ := bind_eq_ok.mp h
          cases h
          exact .inl ⟨_, _, _, _, rfl⟩
        next => cases h; exact .inl ⟨_, _, _, _, rfl⟩
      next => cases h; exact .inl ⟨_, _, _, _, rfl⟩

theorem readReference_ok {base : Url} (hbase : base.cannotBeBase = false) {cs : List Char} {u : Url}
    (h : readReference base cs = .ok u) : u.scheme = base.scheme ∧ u.cannotBeBase = false := by
  simp only [readReference] at h
  split at h
  next => cases h; exact ⟨rfl, hbase⟩
  next =>
    split at h
    next =>
      split at h
      next => exact readAfterSlashes_ok h
      next => cases h; exact ⟨rfl, rfl⟩
    next => cases h; exact ⟨rfl, rfl⟩

/-- Whatever a reference without a scheme makes of its base, it keeps the scheme and can be a base
again. -/
theorem rooted_join {base : Url} (hbase : Rooted base) {s : String}
    (hscheme : splitScheme (clean s) = none) {u : Url} (h : base.join s = .ok u) :
    Rooted u ∧ u.scheme = base.scheme := by
  rw [join_eq hbase hscheme] at h
  split at h
  next hfile =>
    rcases readFile_ok h with ⟨host, names, query, fragment, rfl⟩ | ⟨b, query, fragment, hb, rfl⟩
    · exact ⟨rooted_fileUrl host names query fragment, hfile.symm⟩
    · cases hb
      exact ⟨⟨hbase.segments, hbase.fileHost, hbase.filePort⟩, rfl⟩
  next hfile =>
    obtain ⟨hsame, hsegments⟩ := readReference_ok hbase.segments h
    exact ⟨rooted_of_ne_file hsegments (hsame ▸ hfile), hsame⟩

theorem rooted_parse {s : String} {u : Url} (h : parse s = .ok u)
    (hsegments : u.cannotBeBase = false) : Rooted u := by
  simp only [parse, resolve] at h
  split at h
  next scheme rest _ =>
    simp only [readWithScheme] at h
    split at h
    next =>
      rcases readFile_ok h with ⟨host, names, query, fragment, rfl⟩ | ⟨b, query, fragment, hb, -⟩
      · exact rooted_fileUrl host names query fragment
      · cases hb
    next hfile =>
      split at h
      next => exact rooted_of_ne_file hsegments ((readAfterSlashes_ok h).1 ▸ hfile)
      next =>
        simp only [readOther] at h
        split at h
        next => exact rooted_of_ne_file hsegments ((readAfterSlashes_ok h).1 ▸ hfile)
        next =>
          cases h
          exact rooted_of_ne_file hsegments hfile
  next hnone => cases hnone
  next => cases h

end AdminConsole.Url
