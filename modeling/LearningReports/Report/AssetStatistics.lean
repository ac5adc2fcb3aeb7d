import LearningReports.Report.Context

/-! # Statistics of assets

One row for each converted public asset that was published by anyone but an administrator of the
whole platform. -/
namespace LearningReports.AssetStatistics

open Sql (Expr)

def joinByAsset (t : Table) (column : String) : Sql.Fragment :=
  t.leftJoin (.eq (Table.asset.col "id") (t.col column))

/-! ## Columns -/

def name : Builder := fun ctx => { live := ctx.col .asset "title" }

def publishedOn : Builder := fun ctx =>
  { live := ctx.time (ctx.col .assetPublication "datePublished") }

/-- The names of channels in one language, under a short name. -/
def namesAs (handle : String) (language : List Expr) : Sql.TableJoin :=
  { kind := .left, table := Table.channelName.name, handle := handle
    condition := .joined .and
      (.eq (.col handle "idChannel") (Table.assetChannel.col "idChannel"))
      (language.map fun code => .eq (.col handle "lang") code) }

/-- Each channel with one name: in the language of the caller, in that of the platform, or in any.
-/
def channelNames (ctx : Context) : Sql.Subselect :=
  let channel := Table.assetChannel.col "idChannel"
  let nameIn (handle : String) := Expr.aggregate .anyValue (.col handle "name")
  let isGiven (e : Expr) := Expr.and (.notNull e) (.ne e .empty)
  { items := [
      ⟨channel, some (.name "idChannel")⟩,
      ⟨.caseOf [(isGiven (nameIn "cht_user"), nameIn "cht_user"),
          (isGiven (nameIn "cht_default"), nameIn "cht_default")] (nameIn "cht_any"),
        some (.name "name")⟩]
    table := Table.assetChannel.name
    handle := some Table.assetChannel.handle
    joins := [
      namesAs "cht_user" [.str ctx.session.languageCode.asText],
      namesAs "cht_default" [.str ctx.session.platform.defaultLanguageCode.asText],
      namesAs "cht_any" []]
    groupBy := [channel] }

def channels : Builder := fun ctx =>
  { live := .joinDistinct (Table.channelName.col "name")
    liveParts := [.join Table.channelName.handle [.join .left (.inner (channelNames ctx))
      Table.channelName.handle
      (.eq (Table.channelName.col "idChannel") (Table.assetChannel.col "idChannel"))]] }

def publishedBy : Builder := fun ctx =>
  { live := ctx.value (ctx.fullName (Table.user.col "firstname") (Table.user.col "lastname"))
    liveParts := [Table.user.leftJoin
      (.eq (Table.user.col "idst") (Table.asset.col "userId"))] }

/-- The value of a column, or zero. -/
def orZero (ctx : Context) (t : Table) (column : String) : Expr :=
  .caseOf [(.notNull (ctx.col t column), ctx.col t column)] (.int 0)

def total (t : Table) (column key : String) : Builder := fun ctx =>
  { live := orZero ctx t column, liveParts := [joinByAsset t key] }

/-- The number of rows of a table that belong to the asset. -/
def count (t : Table) (key : String) : Builder := fun _ =>
  { live := .aggregate .countDistinct (t.col "id"), liveParts := [joinByAsset t key] }

/-- The average of the ratings. -/
def rating : Builder := fun _ =>
  let ratings := Expr.aggregate .count (Table.assetRating.col "id")
  { live := .caseOf
      [(.gt ratings (.int 0), .call2 "ROUND"
        (.op .over (.cast (.aggregate .sum (Table.assetRating.col "rating")) "DOUBLE")
          (.cast ratings "DOUBLE"))
        (.int 2))]
      (.int 0)
    liveParts := [joinByAsset .assetRating "idContent"] }

def isWatched : Expr :=
  .gt (.aggregate .countDistinct (Table.assetHistory.col "id")) (.int 0)

/-- A condition on those who have watched the asset, in words. -/
def watchColumn (condition : Expr) : Builder := fun ctx =>
  { live := ctx.yesNo condition, liveParts := [joinByAsset .assetHistory "idContent"] }

/-- The views in percent of the invitations. -/
def watchRate : Builder := fun ctx =>
  let invited := ctx.col .assetInvitations "count_invite_watch"
  let rate := Expr.call "ROUND"
    (.op .over (.op .times (ctx.col .assetViews "views") (.int 100)) invited)
  { live := .concat2 (.caseOf [(.gt invited (.int 0), .asText rate)] (.str "0")) (.str " %")
    liveParts := [joinByAsset .assetInvitations "id", joinByAsset .assetViews "id"] }

def reactionTime : Builder := fun ctx =>
  { live := ctx.col .assetReactionTime "reactionTime"
    liveParts := [joinByAsset .assetReactionTime "idContent"] }

def column? : Field → Option Builder
  | .assetName => some name
  | .publishedOn => some publishedOn
  | .channels => some channels
  | .publishedBy => some publishedBy
  | .answers => some (total .assetAnswers "count" "idContent")
  | .answerLikes => some (total .assetLikes "count" "idContent")
  | .answerDislikes => some (total .assetDislikes "count" "idContent")
  | .assetRating => some rating
  | .totalViews => some (total .assetTotalViews "totalViews" "id")
  | .bestAnswers => some (count .assetBestAnswer "id")
  | .questions => some (count .assetQuestion "idContent")
  | .invitedPeople => some (total .assetInvitations "count_invite_watch" "id")
  | .watched => some (watchColumn isWatched)
  | .notWatched => some (watchColumn (.not (.paren isWatched)))
  | .globalWatchRate => some watchRate
  | .averageReactionTime => some reactionTime
  | _ => none

def customColumn (_ : Context) (_ : ResolvedField) : Column :=
  { live := .empty, archived := .empty }

/-! ## Base -/

/-- The users whose assets are left out. -/
def platformAdministrators : Expr :=
  .inSelect true (Table.assetPublication.col "idUser") (.cast (.name "user_id") "INTEGER")
    Table.role.name (.eq (.name "item_name") (.str "/framework/level/erpadmin"))

def base (ctx : Context) : Base :=
  { live := [
      Table.asset.rows (ctx.filters.assets.conditions (.name "id")
        ++ (DateFilter.condition? (.name "created") ctx.definition.publishedDate).toList),
      Table.assetChannel.join (.and
        (.eq (Table.assetChannel.col "idAsset") (Table.asset.col "id"))
        (.eq (Table.assetChannel.col "asset_type") (.int 1))),
      .source (.leftJoin Table.assetPublication.name Table.assetPublication.handle (.and
        (.eq (Table.asset.col "id") (Table.assetPublication.col "idContent"))
        (.eq (Table.assetPublication.col "actiontype") (.int 1))))]
      ++ restrictAll (.and (.eq (Table.asset.col "conversion_status") (.int 20))
          (.eq (Table.asset.col "is_private") (.int 0))
        :: platformAdministrators
        :: ctx.filters.channels.conditions (Table.assetChannel.col "idChannel"))
      ++ [.groupBy [Table.asset.col "id"]] }

end LearningReports.AssetStatistics
