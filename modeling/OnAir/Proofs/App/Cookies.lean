import OnAir.App.Handlers
import OnAir.Proofs.Http.Jar
import OnAir.Proofs.World

/-!
# Cookies of responses

A response carries a line for each change of a cookie. It cannot carry a change whose name is not the
name of a cookie, nor a removal at a time that is not a date; such a change spoils the response.
-/

namespace OnAir

open Act (run)
open Http (Jar Response SetCookie)
open Seal (CookieChange)

-- -----------------------------------------------------------------------------
-- Lines
-- -----------------------------------------------------------------------------

namespace Http.SetCookie

variable {name token : String} {age : Int} {secure : Bool} {now : Instant} {date : Calendar.Date}
  {change : CookieChange} {changes : List CookieChange} {line : SetCookie} {lines : List SetCookie}

theorem ofChange_clear (hname : Cookie.isName name = true) (hdate : now.date = .ok date) :
    ofChange (.clear name) secure now = .ok ⟨name, "", 0, some date, secure⟩ := by
  have hclears : (CookieChange.clear name).clears = true := rfl
  have hname' : Cookie.isName (CookieChange.clear name).name = true := hname
  simp only [ofChange, hname', hclears, hdate]
  rfl

theorem ofChange_lasting (hname : Cookie.isName name = true) (hage : 0 < age) :
    ofChange ⟨name, token, age⟩ secure now = .ok ⟨name, token, age, none, secure⟩ := by
  have hlasts : (CookieChange.mk name token age).clears = false :=
    decide_eq_false (Int.not_le.mpr hage)
  simp only [ofChange, hname, hlasts]
  rfl

theorem exists_ofChange (secure : Bool) (hname : Cookie.isName change.name = true)
    (hdate : now.date = .ok date) : ∃ cookie, ofChange change secure now = .ok cookie := by
  simp only [ofChange, hname, hdate]
  cases change.clears <;> exact ⟨_, rfl⟩

theorem mapM_cons_eq_ok :
    (change :: changes).mapM (ofChange · secure now) = .ok lines
      ↔ ∃ line rest, ofChange change secure now = .ok line
          ∧ changes.mapM (ofChange · secure now) = .ok rest ∧ lines = line :: rest := by
  rw [List.mapM_cons, exceptBind_ok]
  constructor
  · rintro ⟨line, hline, hmore⟩
    obtain ⟨rest, hrest, hlines⟩ := exceptBind_ok.mp hmore
    cases hlines
    exact ⟨line, rest, hline, hrest, rfl⟩
  · rintro ⟨line, rest, hline, hrest, rfl⟩
    exact ⟨line, hline, exceptBind_ok.mpr ⟨rest, hrest, rfl⟩⟩

theorem exists_mapM (secure : Bool) (hnames : ∀ change ∈ changes, Cookie.isName change.name = true)
    (hdate : now.date = .ok date) :
    ∃ cookies, changes.mapM (ofChange · secure now) = .ok cookies := by
  induction changes with
  | nil => exact ⟨[], rfl⟩
  | cons change rest ih =>
    obtain ⟨cookie, hcookie⟩ := exists_ofChange secure
      (hnames change List.mem_cons_self) hdate
    obtain ⟨cookies, hcookies⟩ := ih fun change hmem => hnames change (List.mem_cons_of_mem _ hmem)
    exact ⟨cookie :: cookies, mapM_cons_eq_ok.mpr ⟨cookie, cookies, hcookie, hcookies, rfl⟩⟩

theorem isName_of_ofChange (h : ofChange change secure now = .ok line) :
    Cookie.isName change.name = true := by
  cases hname : Cookie.isName change.name with
  | true => rfl
  | false => simp [ofChange, hname] at h

theorem removes_of_clears (hclears : change.clears = true)
    (h : ofChange change secure now = .ok line) :
    line.name = change.name ∧ line.maxAge = 0 := by
  simp only [ofChange, isName_of_ofChange h, hclears] at h
  cases hdate : now.date.mapError CookieError.date with
  | error e =>
    rw [hdate] at h
    cases h
  | ok date =>
    rw [hdate] at h
    cases h
    exact ⟨rfl, rfl⟩

theorem all_remove_of_clears (hclears : ∀ change ∈ changes, change.clears = true)
    (h : changes.mapM (ofChange · secure now) = .ok lines) : ∀ line ∈ lines, line.maxAge = 0 := by
  induction changes generalizing lines with
  | nil =>
    cases h
    exact nofun
  | cons change rest ih =>
    obtain ⟨hchange, hrest⟩ := List.forall_mem_cons.mp hclears
    obtain ⟨line, more, hline, hmore, rfl⟩ := mapM_cons_eq_ok.mp h
    exact List.forall_mem_cons.mpr ⟨(removes_of_clears hchange hline).2, ih hrest hmore⟩

structure Puts (line : SetCookie) (name token : String) : Prop where
  name_eq : line.name = name
  value_eq : line.value = token
  lasts : line.maxAge ≠ 0
  isName : Cookie.isName name = true
  plain : ∀ c ∈ token.toList, Url.isUnreserved c = true

theorem puts_of_ofChange (hage : 0 < age) (hplain : ∀ c ∈ token.toList, Url.isUnreserved c = true)
    (h : ofChange ⟨name, token, age⟩ secure now = .ok line) : Puts line name token := by
  have hname : Cookie.isName name = true := isName_of_ofChange h
  cases (ofChange_lasting hname hage).symm.trans h
  exact ⟨rfl, rfl, Int.ne_of_gt hage, hname, hplain⟩

theorem Puts.apply (h : Puts line name token) (jar : Jar) : jar.apply line = jar.put name token := by
  rw [Jar.apply, if_neg h.lasts, h.name_eq, h.value_eq]

theorem Puts.separable (h : Puts line name token) : Cookie.Separable (name, token) where
  name := h.isName
  value hmem := by
    have hsemicolon : Url.isUnreserved ';' = true := h.plain ';' hmem
    exact absurd hsemicolon (by decide)

end Http.SetCookie

-- -----------------------------------------------------------------------------
-- Responses
-- -----------------------------------------------------------------------------

theorem App.withCookies_run (app : App) (changes : List CookieChange) (response : Response)
    (w : World) :
    (∃ lines, changes.mapM (SetCookie.ofChange · app.settings.cookieSecure w.clock) = .ok lines
        ∧ run (app.withCookies changes response) w
          = (.ok { response with cookies := response.cookies ++ lines }, w))
      ∨ ∃ u, run (app.withCookies changes response) w = (.error (.unforeseen u), w) := by
  rw [withCookies, Act.run_bind, Act.run_now]
  dsimp only
  cases hlines : changes.mapM (SetCookie.ofChange · app.settings.cookieSecure w.clock) with
  | error e => exact .inr ⟨_, rfl⟩
  | ok lines => exact .inl ⟨lines, rfl, rfl⟩

end OnAir
