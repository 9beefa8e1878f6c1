import QueryWatch.Time.Offsets
import QueryWatch.Text.Basic

/-!
# The known zones

Names and offsets of zones as the time zone database has them. Before the first
listed instant a place keeps its local mean time. Summer time is a list of spans
up to the rule in force, and follows that rule until the end of 2099.
-/
namespace QueryWatch.ZoneTable
open Offsets SundayChange

/-- Eight hours, with summer time in two periods of the twentieth century. -/
def china : Offsets where
  first := 8 * hour + 343
  changes := (-2177481943, 8 * hour) :: raised (8 * hour) (9 * hour)
      [(-1600675200, -1585904400), (-933667200, -922093200), (-908870400, -888829200),
       (-881049600, -767869200), (-745833600, -733827600), (-716889600, -699613200),
       (-683884800, -670669200), (-652348800, -650019600), (515527200, 527014800),
       (545162400, 558464400), (577216800, 589914000), (608666400, 621968400),
       (640116000, 653418000), (671565600, 684867600)]

/-- Nine hours, with summer time after the war. -/
def japan : Offsets where
  first := 9 * hour + 1139
  changes := (-2587712400, 9 * hour) :: raised (9 * hour) (10 * hour)
      [(-683802000, -672310800), (-654771600, -640861200), (-620298000, -609411600),
       (-588848400, -577962000)]

/-- Five hours and a half since 1906, an hour more in the war. -/
def india : Offsets where
  first := 21208
  changes :=
    [(-3645237208, 21200), (-3155694800, 19270), (-2019705670, 5 * hour + 1800),
     (-891581400, 6 * hour + 1800), (-872058600, 5 * hour + 1800), (-862637400, 6 * hour + 1800),
     (-764145000, 5 * hour + 1800)]

/-- A quarter of an hour was added at the start of 1986. -/
def nepal : Offsets where
  first := 20476
  changes := [(-1577943676, 5 * hour + 1800), (504901800, 5 * hour + 2700)]

/-- The second Sunday of March to the first of November, at two o'clock. -/
def newYork : Offsets where
  first := -17762
  changes := (-2717650800, -5 * hour) :: raised (-5 * hour) (-4 * hour)
      [(-1633280400, -1615140000), (-1601830800, -1583690400), (-1570381200, -1551636000),
       (-1536512400, -1523210400), (-1504458000, -1491760800), (-1473008400, -1459706400),
       (-1441558800, -1428256800), (-1410109200, -1396807200), (-1378659600, -1365357600),
       (-1347210000, -1333908000), (-1315155600, -1301853600), (-1283706000, -1270404000),
       (-1252256400, -1238954400), (-1220806800, -1207504800), (-1189357200, -1176055200),
       (-1157302800, -1144605600), (-1125853200, -1112551200), (-1094403600, -1081101600),
       (-1062954000, -1049652000), (-1031504400, -1018202400), (-1000054800, -986752800),
       (-968000400, -955303200), (-936550800, -923248800), (-905101200, -891799200),
       (-880218000, -765396000), (-747248400, -733946400), (-715798800, -702496800),
       (-684349200, -671047200), (-652899600, -639597600), (-620845200, -608148000),
       (-589395600, -576093600), (-557946000, -544644000), (-526496400, -513194400),
       (-495046800, -481744800), (-463597200, -447271200), (-431542800, -415821600),
       (-400093200, -384372000), (-368643600, -352922400), (-337194000, -321472800),
       (-305744400, -289418400), (-273690000, -257968800), (-242240400, -226519200),
       (-210790800, -195069600), (-179341200, -163620000), (-147891600, -131565600),
       (-116442000, -100116000), (-84387600, -68666400), (-52938000, -37216800),
       (-21488400, -5767200), (9961200, 25682400), (41410800, 57736800), (73465200, 89186400),
       (104914800, 120636000), (126687600, 152085600), (162370800, 183535200),
       (199263600, 215589600), (230713200, 247039200), (262767600, 278488800),
       (294217200, 309938400), (325666800, 341388000), (357116400, 372837600),
       (388566000, 404892000), (420015600, 436341600), (452070000, 467791200),
       (483519600, 499240800), (514969200, 530690400), (544604400, 562140000),
       (576054000, 594194400), (607503600, 625644000), (638953200, 657093600),
       (671007600, 688543200), (702457200, 719992800), (733906800, 752047200),
       (765356400, 783496800), (796806000, 814946400), (828860400, 846396000),
       (860310000, 877845600), (891759600, 909295200), (923209200, 941349600),
       (954658800, 972799200), (986108400, 1004248800), (1018162800, 1035698400),
       (1049612400, 1067148000), (1081062000, 1099202400), (1112511600, 1130652000),
       (1143961200, 1162101600)]
    ++ fromYear 2007 [⟨3, 8, 7 * hour, -4 * hour⟩, ⟨11, 1, 6 * hour, -5 * hour⟩]

/-- The last Sunday of March to the last of October, at one o'clock universal
time. Two hours were added in war time, and one all the year from 1968 to
1971. -/
def london : Offsets where
  first := -75
  changes := (-3852662325, 0) :: raised 0 hour
      [(-1691964000, -1680472800), (-1664143200, -1650146400), (-1633903200, -1617487200),
       (-1601848800, -1586037600), (-1570399200, -1552168800), (-1538344800, -1522533600),
       (-1507500000, -1490565600), (-1473631200, -1460930400), (-1442786400, -1428876000),
       (-1410732000, -1396216800), (-1379282400, -1364767200), (-1348437600, -1333317600),
       (-1315778400, -1301263200), (-1284328800, -1269813600), (-1253484000, -1238364000),
       (-1221429600, -1206914400), (-1189980000, -1175464800), (-1159135200, -1143410400),
       (-1126476000, -1111960800), (-1095631200, -1080511200), (-1063576800, -1049061600),
       (-1032127200, -1017612000), (-1001282400, -986162400), (-969228000, -950479200)]
    ++ [(-942012000, hour), (-904518000, 2 * hour), (-896050800, hour), (-875487600, 2 * hour),
        (-864601200, hour), (-844038000, 2 * hour), (-832546800, hour), (-812588400, 2 * hour),
        (-798073200, hour), (-781052400, 2 * hour), (-772066800, hour), (-764805600, 0),
        (-748476000, hour), (-733356000, 0), (-719445600, hour), (-717030000, 2 * hour),
        (-706748400, hour), (-699487200, 0)]
    ++ raised 0 hour
      [(-687996000, -668037600), (-654732000, -636588000), (-622072800, -605743200),
       (-590623200, -574293600), (-558568800, -542239200), (-527119200, -512604000),
       (-496274400, -481154400), (-464220000, -449704800), (-432165600, -417650400),
       (-401320800, -386200800), (-369266400, -354751200), (-337816800, -323301600),
       (-306972000, -291852000), (-276732000, -257983200), (-245282400, -226533600),
       (-213228000, -195084000), (-182383200, -163634400), (-150933600, -132184800),
       (-119484000, -100735200), (-88034400, -68680800), (-59004000, 57722400),
       (69818400, 89172000), (101268000, 120621600), (132717600, 152071200), (164167200, 183520800),
       (196221600, 214970400), (227671200, 246420000), (259120800, 278474400),
       (290570400, 309924000), (322020000, 341373600), (354675600, 372819600),
       (386125200, 404269200), (417574800, 435718800), (449024400, 467773200),
       (481078800, 499222800), (512528400, 530672400), (543978000, 562122000),
       (575427600, 593571600), (606877200, 625626000), (638326800, 657075600),
       (670381200, 688525200), (701830800, 719974800), (733280400, 751424400),
       (764730000, 782874000), (796179600, 814323600)]
    ++ fromYear 1996 [⟨3, 25, hour, hour⟩, ⟨10, 25, hour, 0⟩]

/-- The first Sunday of October to the first of April, at two o'clock, by half
an hour. -/
def lordHowe : Offsets where
  first := 38180
  changes :=
    (-2364114980, 10 * hour) :: (352216800, 10 * hour + 1800)
      :: raised (10 * hour + 1800) (11 * hour + 1800)
      [(372785400, 384273000), (404839800, 415722600), (436289400, 447172200),
       (467739000, 478621800)]
    ++ raised (10 * hour + 1800) (11 * hour)
      [(499188600, 511282800), (530033400, 542732400), (562087800, 574786800),
       (594142200, 606236400), (625591800, 636476400), (657041400, 667926000),
       (688491000, 699375600), (719940600, 731430000), (751995000, 762879600),
       (783444600, 794329200), (814894200, 828198000), (846343800, 859647600),
       (877793400, 891097200), (909243000, 922546800), (941297400, 953996400),
       (967303800, 985446000), (1004196600, 1017500400), (1035646200, 1048950000),
       (1067095800, 1080399600), (1099150200, 1111849200), (1130599800, 1143903600),
       (1162049400, 1174748400)]
    ++ (1193499000, 11 * hour)
      :: fromYear 2008
        [⟨4, 1, -9 * hour, 10 * hour + 1800⟩, ⟨10, 1, -(8 * hour + 1800), 11 * hour⟩]

/-- A day was skipped at the end of 2011. -/
def apia : Offsets where
  first := 45184
  changes :=
    [(-2445424384, -41216), (-1861878784, -(11 * hour + 1800)), (-631110600, -11 * hour),
     (1285498800, -10 * hour), (1301752800, -11 * hour), (1316872800, -10 * hour),
     (1325239200, 14 * hour), (1333202400, 13 * hour)]
    ++ raised (13 * hour) (14 * hour)
      [(1348927200, 1365256800), (1380376800, 1396706400), (1411826400, 1428156000),
       (1443276000, 1459605600), (1474725600, 1491055200), (1506175200, 1522504800),
       (1538229600, 1554559200), (1569679200, 1586008800), (1601128800, 1617458400)]

def directory : List (Text × Offsets) :=
  [("UTC".toList, ⟨0, []⟩), ("Etc/UTC".toList, ⟨0, []⟩), ("GMT".toList, ⟨0, []⟩),
   ("Zulu".toList, ⟨0, []⟩), ("Etc/GMT+5".toList, ⟨-5 * hour, []⟩),
   ("Etc/GMT-14".toList, ⟨14 * hour, []⟩),
   ("Asia/Tokyo".toList, japan), ("Asia/Kolkata".toList, india),
   ("Asia/Kathmandu".toList, nepal), ("Asia/Shanghai".toList, china), ("PRC".toList, china),
   ("America/New_York".toList, newYork), ("Europe/London".toList, london),
   ("Australia/Lord_Howe".toList, lordHowe), ("Pacific/Apia".toList, apia)]

end QueryWatch.ZoneTable
