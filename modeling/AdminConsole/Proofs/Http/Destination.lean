/-
# `Proofs.Http.Destination` — where the token goes

Every request carries the token of the settings, so it matters which server it is
sent to.  The URL of a request is read in two steps: the path of the service
relative to the URL that was set, and the path of an endpoint relative to what
comes of that.

The second step never leaves the server: the path of a collection or of a resource
is made of names and numbers, and names neither an authority nor a drive.  The
first one need not stay, because the check of the settings looks at the ends of the
path only.  A path that begins with two slashes passes it and names a server of its
own (`token_leaves_server`).  That is the only way in which a request gets
somewhere else; for URLs to which nothing is sent there is one more, the drives of
files (`token_stays_on_server`).
-/
import AdminConsole.Http.Request
import AdminConsole.Proofs.Text.Integer
import AdminConsole.Proofs.Url.Origin

namespace AdminConsole

/-! ## Endpoints -/

/-- The endpoints of collections and of single resources. -/
def Endpoint.IsResource (e : Endpoint) : Prop :=
  (∃ k, e = .collection k) ∨ ∃ k id, e = .detail k id

namespace Endpoint

/-- Characters that stand for themselves in every path: not blank, and no sign of a scheme or a
drive. -/
def isPathChar (c : Char) : Bool := !Url.isOuterBlank c && c != ':' && c != '|'

theorem name_chars (k : Kind) :
    k.name.toList.all isPathChar = true ∧
      k.name.toList.head?.map (Url.isSlash true) = some false := by
  cases k <;> decide +kernel

theorem isPathChar_of_isDigit {c : Char} (h : c.isDigit = true) : isPathChar c = true := by
  have hd := Char.isDigit_iff_toNat.mp h
  have h0 : '0'.toNat = 48 := rfl
  have h9 : '9'.toNat = 57 := rfl
  have hne : ∀ d : Char, 57 < d.toNat → c ≠ d := by
    rintro d hd' rfl
    omega
  have hblank : Url.isOuterBlank c = false := by
    simp only [Url.isOuterBlank, decide_eq_false_iff_not]
    omega
  simp only [isPathChar, hblank, bne_iff_ne.mpr (hne ':' (by decide)),
    bne_iff_ne.mpr (hne '|' (by decide)), Bool.not_false, Bool.and_self]

/-- The path of a resource is the name of its kind, and then characters of paths. -/
theorem path_resource {e : Endpoint} (he : e.IsResource) :
    ∃ (k : Kind) (tail : List Char), e.path.toList = k.name.toList ++ tail ∧ ∀ c ∈ tail, isPathChar c = true := by
  have hslash : ∀ c ∈ "/".toList, isPathChar c = true := by
    intro c hc
    rw [List.mem_singleton.mp hc]
    rfl
  rcases he with ⟨k, rfl⟩ | ⟨k, id, rfl⟩
  · refine ⟨k, "/".toList, ?_, hslash⟩
    simp only [collection, String.toList_append]
  · refine ⟨k, "/".toList ++ (toString id).toList ++ "/".toList, ?_, ?_⟩
    · simp only [detail, String.toList_append, List.append_assoc]
    · intro c hc
      rcases List.mem_append.mp hc with hc | hc
      · rcases List.mem_append.mp hc with hc | hc
        · exact hslash c hc
        · rcases Text.mem_toString hc with rfl | hdigit
          · rfl
          · exact isPathChar_of_isDigit hdigit
      · exact hslash c hc

theorem isPathChar_path {e : Endpoint} (he : e.IsResource) :
    ∀ c ∈ e.path.toList, isPathChar c = true := by
  obtain ⟨k, tail, hpath, htail⟩ := path_resource he
  intro c hc
  rw [hpath] at hc
  rcases List.mem_append.mp hc with hc | hc
  · exact List.all_eq_true.mp (name_chars k).1 c hc
  · exact htail c hc

theorem isOuterBlank_path {e : Endpoint} (he : e.IsResource) :
    ∀ c ∈ e.path.toList, Url.isOuterBlank c = false := by
  intro c hc
  have hchar := isPathChar_path he c hc
  simp only [isPathChar, Bool.and_eq_true, Bool.not_eq_true'] at hchar
  exact hchar.1.1

theorem staysBelow {e : Endpoint} (he : e.IsResource) : Url.StaysBelow e.path.toList where
  start := by
    intro c r hc
    obtain ⟨k, tail, hpath, -⟩ := path_resource he
    have hhead := (name_chars k).2
    cases hname : k.name.toList with
    | nil =>
        rw [hname] at hhead
        cases hhead
    | cons first rest =>
        rw [hname] at hhead
        rw [hpath, hname] at hc
        cases hc
        exact Option.some.inj hhead
  colon := fun hc => by cases isPathChar_path he ':' hc
  bar := fun hc => by cases isPathChar_path he '|' hc

end Endpoint

/-! ## Settings -/

namespace ConsoleConfig

/-- Whether the path of the service begins with two slashes, so that it names a server of its own. -/
def pathNamesServer (c : ConsoleConfig) : Bool := Url.namesAuthority (Url.clean c.apiPath)

/-- Whether the URL that was set is about files, and a drive takes the place of its host. -/
def pathNamesDrive (c : ConsoleConfig) : Bool := Url.namesDrive c.apiUrl (Url.clean c.apiPath)

theorem clean_of_isEnclosed {s : String} (h : isEnclosed s = true) :
    ∃ r, Url.clean s = '/' :: r := by
  simp only [isEnclosed, Bool.and_eq_true, beq_iff_eq] at h
  obtain ⟨r, hr⟩ := List.head?_eq_some_iff.mp h.1
  obtain ⟨front, hfront⟩ := List.getLast?_eq_some_iff.mp h.2
  have hstart : s.toList.dropWhile Url.isOuterBlank = s.toList := by
    rw [hr]
    rfl
  have hend : s.toList.reverse.dropWhile Url.isOuterBlank = s.toList.reverse := by
    rw [hfront, List.reverse_append]
    rfl
  simp only [Url.clean]
  rw [hstart, hend, List.reverse_reverse, hr]
  exact ⟨_, List.filter_cons_of_pos rfl⟩

theorem of_ofConfig {c : ConsoleConfig} {client : Http.Client}
    (h : Http.Client.ofConfig c = .ok client) :
    isEnclosed c.apiPath = true ∧ c.apiUrl.cannotBeBase = false ∧
      c.apiUrl.join c.apiPath = .ok client.base ∧ client.token = c.token := by
  simp only [Http.Client.ofConfig] at h
  obtain ⟨⟨⟩, hvalid, h⟩ := bind_eq_ok.mp h
  obtain ⟨base, hbase, h⟩ := bind_eq_ok.mp h
  cases h
  simp only [validate] at hvalid
  simp only [apiBase] at hbase
  split at hvalid
  · cases hvalid
  · split at hvalid
    · cases hvalid
    · split at hvalid
      · cases hvalid
      next henclosed =>
        split at hvalid
        · cases hvalid
        next hsegments =>
          split at hbase
          next hjoin =>
            cases hbase
            exact ⟨by simpa using henclosed, by simpa using hsegments, hjoin, rfl⟩
          next => cases hbase

end ConsoleConfig

/-! ## Requests -/

namespace Http

theorem sameOrigin_withoutCredentials (u : Url) : Url.SameOrigin u (withoutCredentials u) := by
  simp only [withoutCredentials]
  split <;> exact ⟨rfl, rfl, rfl⟩

theorem sameOrigin_callUrl {α : Type} (u : Url) (call : Call α) :
    Url.SameOrigin u (Client.callUrl u call) := by
  simp only [Client.callUrl]
  split <;> exact ⟨rfl, rfl, rfl⟩

/-- A request that is sent goes to the server of its URL, with the token, and to none but the web. -/
theorem Client.of_request {α : Type} {client : Client} {call : Call α} {r : Request} {u : Url}
    (hurl : client.url call.endpoint = .ok u) (h : client.request call = .ok r) :
    r.token = client.token ∧ Url.SameOrigin u r.url ∧ isWebScheme u.scheme = true := by
  have htarget : Url.SameOrigin u (Client.callUrl (withoutCredentials u) call) :=
    (sameOrigin_withoutCredentials u).trans (sameOrigin_callUrl _ call)
  simp only [Client.request] at h
  obtain ⟨u', hurl', h⟩ := bind_eq_ok.mp h
  rw [hurl] at hurl'
  cases hurl'
  split at h
  next hrequest =>
    cases h
    simp only [Client.requestTo] at hrequest
    split at hrequest
    · cases hrequest
    · split at hrequest
      · cases hrequest
      · split at hrequest
        next hsendable =>
          cases hrequest
          exact ⟨rfl, htarget, (Bool.and_eq_true_iff.mp hsendable).1⟩
        next => cases hrequest
  next => cases h

/-- **The token stays on the server that was set**, unless the path of the service names another.  For
all settings that pass the check, the URL of a collection or a resource can be read and is on the server
of the client's base.  This is the server of the URL that was set, unless the path begins with two
slashes, or the URL is about files and a drive comes in.  Every request that is sent carries the token
there, and for those nothing but the two slashes is in the way. -/
theorem token_stays_on_server {c : ConsoleConfig} {text : String}
    (hparse : Url.parse text = .ok c.apiUrl) {client : Client}
    (hclient : Client.ofConfig c = .ok client) {e : Endpoint} (he : e.IsResource) :
    ∃ u, client.url e = .ok u ∧ Url.SameOrigin client.base u ∧
      (c.pathNamesServer = false → c.pathNamesDrive = false → Url.SameOrigin c.apiUrl u) ∧
      ∀ {α : Type} (call : Call α) (r : Request), call.endpoint = e →
        client.request call = .ok r →
          r.token = c.token ∧ Url.SameOrigin u r.url ∧
            (c.pathNamesServer = false → Url.SameOrigin c.apiUrl r.url) := by
  obtain ⟨henclosed, hsegments, hjoin, htoken⟩ := ConsoleConfig.of_ofConfig hclient
  obtain ⟨rest, hclean⟩ := ConsoleConfig.clean_of_isEnclosed henclosed
  have hscheme : Url.splitScheme (Url.clean c.apiPath) = none := by
    rw [hclean]
    rfl
  have hrooted : Url.Rooted c.apiUrl := Url.rooted_parse hparse hsegments
  obtain ⟨hbase, hsame⟩ := Url.rooted_join hrooted hscheme hjoin
  obtain ⟨u, hu, horigin⟩ :=
    Url.join_staysBelow hbase (Endpoint.isOuterBlank_path he) (Endpoint.staysBelow he)
  have hstays : c.pathNamesServer = false → c.pathNamesDrive = false →
      Url.SameOrigin c.apiUrl u := by
    intro hserver hdrive
    obtain ⟨base, hbase', horigin'⟩ := Url.join_sameOrigin hrooted hscheme hserver hdrive
    rw [hjoin] at hbase'
    cases hbase'
    exact horigin'.trans horigin
  have hurl : client.url e = .ok u := by
    simp only [Client.url, hu]
  refine ⟨u, hurl, horigin, hstays, ?_⟩
  rintro α call r rfl hrequest
  obtain ⟨htoken', horigin', hweb⟩ := Client.of_request hurl hrequest
  refine ⟨htoken'.trans htoken, horigin', fun hserver => ?_⟩
  -- nothing is sent to a file, so no drive can be in the way
  have hdrive : c.pathNamesDrive = false := by
    have hfile : (c.apiUrl.scheme == "file") = false := by
      rw [← hsame, ← horigin.scheme, beq_eq_false_iff_ne]
      intro hfile
      rw [hfile] at hweb
      cases hweb
    simp only [ConsoleConfig.pathNamesDrive, Url.namesDrive, hfile, Bool.false_and]
  exact (hstays hserver hdrive).trans horigin'

/-- A URL of a server that is given by its address, `2001:db8::n`. -/
def addressed (n : Nat) (names : List String) : Url :=
  ⟨"http", "", "", some (.ipv6 [8193, 3512, 0, 0, 0, 0, 0, n]), none, .segments names, none, none⟩

/-- A collection of hosts on such a server. -/
theorem token_stays_on_server_hosts :
    let c : ConsoleConfig := { ConsoleConfig.ofUrl (addressed 2 [""]) with token := some "t" }
    Url.parse "http://[2001:db8::2]/" = .ok c.apiUrl ∧
      ∃ client u, Client.ofConfig c = .ok client ∧ client.url (.collection .hosts) = .ok u ∧
        Url.SameOrigin c.apiUrl u := by
  have hparse : Url.parse "http://[2001:db8::2]/" = .ok (addressed 2 [""]) := rfl
  have hclient : Client.ofConfig { ConsoleConfig.ofUrl (addressed 2 [""]) with token := some "t" }
      = .ok ⟨addressed 2 ["api", "v2", ""], some "t", 10⟩ := rfl
  have hhosts : (Endpoint.collection .hosts).IsResource := .inl ⟨.hosts, rfl⟩
  obtain ⟨u, hu, -, hstays, -⟩ := token_stays_on_server
    (c := { ConsoleConfig.ofUrl (addressed 2 [""]) with token := some "t" }) hparse hclient hhosts
  exact ⟨hparse, _, u, hclient, hu, hstays rfl rfl⟩

/-- A path that begins with two slashes passes the check, and the URLs are on the server it names. -/
theorem token_leaves_server :
    let c : ConsoleConfig :=
      { ConsoleConfig.ofUrl (addressed 2 [""]) with
        apiPath := "//[2001:db8::1]/"
        token := some "t" }
    c.validate = .ok () ∧
      ∃ client u, Client.ofConfig c = .ok client ∧ client.url (.collection .hosts) = .ok u ∧
        u = addressed 1 ["hosts", ""] ∧ u.host ≠ c.apiUrl.host :=
  ⟨rfl, ⟨addressed 1 [""], some "t", 10⟩, _, rfl, rfl, rfl, by decide⟩

end Http

end AdminConsole
