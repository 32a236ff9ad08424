import DocBrowser.Calendar.Region
/-!
# Eight regions

The time zone data of eight regions, each change as the instant in seconds from 1970 and the offset
from then on. Zone data with all regions of the world is not part of the program; this is what it is
run with where no other data is given.
-/

namespace DocBrowser.Calendar

/-- The changes of Europe/Warsaw. -/
def warsawChanges : List (Int × Int) := [
    (-1717032240, 3600), (-1693706400, 7200), (-1680483600, 3600), (-1663455600, 7200),
    (-1650150000, 3600), (-1632006000, 7200), (-1600473600, 10800), (-1587168000, 7200),
    (-1501725600, 3600), (-931734000, 7200), (-857257200, 3600), (-844556400, 7200),
    (-828226800, 3600), (-812502000, 7200), (-796608000, 3600), (-778726800, 7200),
    (-762660000, 3600), (-748486800, 7200), (-733273200, 3600), (-715215600, 7200),
    (-701910000, 3600), (-684975600, 7200), (-670460400, 3600), (-654130800, 7200),
    (-639010800, 3600), (-397094400, 7200), (-386812800, 3600), (-371088000, 7200),
    (-355363200, 3600), (-334195200, 7200), (-323308800, 3600), (-307584000, 7200),
    (-291859200, 3600), (-271296000, 7200), (-260409600, 3600), (-239846400, 7200),
    (-228960000, 3600), (-208396800, 7200), (-197510400, 3600), (-176342400, 7200),
    (-166060800, 3600), (228873600, 7200), (243993600, 3600), (260323200, 7200), (276048000, 3600),
    (291772800, 7200), (307497600, 3600), (323827200, 7200), (338947200, 3600), (354672000, 7200),
    (370396800, 3600), (386121600, 7200), (401846400, 3600), (417571200, 7200), (433296000, 3600),
    (449020800, 7200), (465350400, 3600), (481075200, 7200), (496800000, 3600), (512524800, 7200),
    (528249600, 3600), (543974400, 7200), (559699200, 3600), (575427600, 7200), (591152400, 3600),
    (606877200, 7200), (622602000, 3600), (638326800, 7200), (654656400, 3600), (670381200, 7200),
    (686106000, 3600), (701830800, 7200), (717555600, 3600), (733280400, 7200), (749005200, 3600),
    (764730000, 7200), (780454800, 3600), (796179600, 7200), (811904400, 3600), (828234000, 7200),
    (846378000, 3600)]

/-- The changes of Europe/Brussels. -/
def brusselsChanges : List (Int × Int) := [
    (-2450995200, 0), (-1740355200, 3600), (-1693702800, 7200), (-1680483600, 3600),
    (-1663455600, 7200), (-1650150000, 3600), (-1632006000, 7200), (-1618700400, 3600),
    (-1613826000, 0), (-1604278800, 3600), (-1585530000, 0), (-1574038800, 3600), (-1552266000, 0),
    (-1539997200, 3600), (-1520557200, 0), (-1507510800, 3600), (-1490576400, 0),
    (-1473642000, 3600), (-1459126800, 0), (-1444006800, 3600), (-1427677200, 0),
    (-1411952400, 3600), (-1396227600, 0), (-1379293200, 3600), (-1364778000, 0),
    (-1348448400, 3600), (-1333328400, 0), (-1316394000, 3600), (-1301263200, 0),
    (-1284328800, 3600), (-1269813600, 0), (-1253484000, 3600), (-1238364000, 0),
    (-1221429600, 3600), (-1206914400, 0), (-1191189600, 3600), (-1175464800, 0),
    (-1160344800, 3600), (-1143410400, 0), (-1127685600, 3600), (-1111960800, 0),
    (-1096840800, 3600), (-1080511200, 0), (-1063576800, 3600), (-1049061600, 0),
    (-1033336800, 3600), (-1017612000, 0), (-1002492000, 3600), (-986162400, 0), (-969228000, 3600),
    (-950479200, 0), (-942012000, 3600), (-934668000, 7200), (-857257200, 3600), (-844556400, 7200),
    (-828226800, 3600), (-812502000, 7200), (-798073200, 3600), (-781052400, 7200),
    (-766623600, 3600), (-745455600, 7200), (-733273200, 3600), (228877200, 7200),
    (243997200, 3600), (260326800, 7200), (276051600, 3600), (291776400, 7200), (307501200, 3600),
    (323830800, 7200), (338950800, 3600), (354675600, 7200), (370400400, 3600), (386125200, 7200),
    (401850000, 3600), (417574800, 7200), (433299600, 3600), (449024400, 7200), (465354000, 3600),
    (481078800, 7200), (496803600, 3600), (512528400, 7200), (528253200, 3600), (543978000, 7200),
    (559702800, 3600), (575427600, 7200), (591152400, 3600), (606877200, 7200), (622602000, 3600),
    (638326800, 7200), (654656400, 3600), (670381200, 7200), (686106000, 3600), (701830800, 7200),
    (717555600, 3600), (733280400, 7200), (749005200, 3600), (764730000, 7200), (780454800, 3600),
    (796179600, 7200), (811904400, 3600), (828234000, 7200), (846378000, 3600)]

/-- The changes of America/New_York until 1966. -/
def newYorkChangesUntil1966 : List (Int × Int) := [
    (-2717650800, -18000), (-1633280400, -14400), (-1615140000, -18000), (-1601830800, -14400),
    (-1583690400, -18000), (-1570381200, -14400), (-1551636000, -18000), (-1536512400, -14400),
    (-1523210400, -18000), (-1504458000, -14400), (-1491760800, -18000), (-1473008400, -14400),
    (-1459706400, -18000), (-1441558800, -14400), (-1428256800, -18000), (-1410109200, -14400),
    (-1396807200, -18000), (-1378659600, -14400), (-1365357600, -18000), (-1347210000, -14400),
    (-1333908000, -18000), (-1315155600, -14400), (-1301853600, -18000), (-1283706000, -14400),
    (-1270404000, -18000), (-1252256400, -14400), (-1238954400, -18000), (-1220806800, -14400),
    (-1207504800, -18000), (-1189357200, -14400), (-1176055200, -18000), (-1157302800, -14400),
    (-1144605600, -18000), (-1125853200, -14400), (-1112551200, -18000), (-1094403600, -14400),
    (-1081101600, -18000), (-1062954000, -14400), (-1049652000, -18000), (-1031504400, -14400),
    (-1018202400, -18000), (-1000054800, -14400), (-986752800, -18000), (-968000400, -14400),
    (-955303200, -18000), (-936550800, -14400), (-923248800, -18000), (-905101200, -14400),
    (-891799200, -18000), (-880218000, -14400), (-765396000, -18000), (-747248400, -14400),
    (-733946400, -18000), (-715798800, -14400), (-702496800, -18000), (-684349200, -14400),
    (-671047200, -18000), (-652899600, -14400), (-639597600, -18000), (-620845200, -14400),
    (-608148000, -18000), (-589395600, -14400), (-576093600, -18000), (-557946000, -14400),
    (-544644000, -18000), (-526496400, -14400), (-513194400, -18000), (-495046800, -14400),
    (-481744800, -18000), (-463597200, -14400), (-447271200, -18000), (-431542800, -14400),
    (-415821600, -18000), (-400093200, -14400), (-384372000, -18000), (-368643600, -14400),
    (-352922400, -18000), (-337194000, -14400), (-321472800, -18000), (-305744400, -14400),
    (-289418400, -18000), (-273690000, -14400), (-257968800, -18000), (-242240400, -14400),
    (-226519200, -18000), (-210790800, -14400), (-195069600, -18000), (-179341200, -14400),
    (-163620000, -18000), (-147891600, -14400), (-131565600, -18000), (-116442000, -14400),
    (-100116000, -18000)]

/-- The changes of America/New_York from 1967 on. -/
def newYorkChangesFrom1967 : List (Int × Int) := [
    (-84387600, -14400), (-68666400, -18000), (-52938000, -14400), (-37216800, -18000),
    (-21488400, -14400), (-5767200, -18000), (9961200, -14400), (25682400, -18000),
    (41410800, -14400), (57736800, -18000), (73465200, -14400), (89186400, -18000),
    (104914800, -14400), (120636000, -18000), (126687600, -14400), (152085600, -18000),
    (162370800, -14400), (183535200, -18000), (199263600, -14400), (215589600, -18000),
    (230713200, -14400), (247039200, -18000), (262767600, -14400), (278488800, -18000),
    (294217200, -14400), (309938400, -18000), (325666800, -14400), (341388000, -18000),
    (357116400, -14400), (372837600, -18000), (388566000, -14400), (404892000, -18000),
    (420015600, -14400), (436341600, -18000), (452070000, -14400), (467791200, -18000),
    (483519600, -14400), (499240800, -18000), (514969200, -14400), (530690400, -18000),
    (544604400, -14400), (562140000, -18000), (576054000, -14400), (594194400, -18000),
    (607503600, -14400), (625644000, -18000), (638953200, -14400), (657093600, -18000),
    (671007600, -14400), (688543200, -18000), (702457200, -14400), (719992800, -18000),
    (733906800, -14400), (752047200, -18000), (765356400, -14400), (783496800, -18000),
    (796806000, -14400), (814946400, -18000), (828860400, -14400), (846396000, -18000),
    (860310000, -14400), (877845600, -18000), (891759600, -14400), (909295200, -18000),
    (923209200, -14400), (941349600, -18000), (954658800, -14400), (972799200, -18000),
    (986108400, -14400), (1004248800, -18000), (1018162800, -14400), (1035698400, -18000),
    (1049612400, -14400), (1067148000, -18000), (1081062000, -14400), (1099202400, -18000),
    (1112511600, -14400), (1130652000, -18000), (1143961200, -14400), (1162101600, -18000),
    (1173596400, -14400), (1194156000, -18000)]

/-- The changes of America/New_York. -/
def newYorkChanges : List (Int × Int) := newYorkChangesUntil1966 ++ newYorkChangesFrom1967

/-- The changes of Australia/Sydney. -/
def sydneyChanges : List (Int × Int) := [
    (-2364113092, 36000), (-1672560000, 39600), (-1665388800, 36000), (-883641600, 39600),
    (-876124800, 36000), (-860400000, 39600), (-844675200, 36000), (-828345600, 39600),
    (-813225600, 36000), (57686400, 39600), (67968000, 36000), (89136000, 39600),
    (100022400, 36000), (120585600, 39600), (131472000, 36000), (152035200, 39600),
    (162921600, 36000), (183484800, 39600), (194976000, 36000), (215539200, 39600),
    (226425600, 36000), (246988800, 39600), (257875200, 36000), (278438400, 39600),
    (289324800, 36000), (309888000, 39600), (320774400, 36000), (341337600, 39600),
    (352224000, 36000), (372787200, 39600), (386697600, 36000), (404841600, 39600),
    (415728000, 36000), (436291200, 39600), (447177600, 36000), (467740800, 39600),
    (478627200, 36000), (499190400, 39600), (511286400, 36000), (530035200, 39600),
    (542736000, 36000), (562089600, 39600), (574790400, 36000), (594144000, 39600),
    (606240000, 36000), (625593600, 39600), (636480000, 36000), (657043200, 39600),
    (667929600, 36000), (688492800, 39600), (699379200, 36000), (719942400, 39600),
    (731433600, 36000), (751996800, 39600), (762883200, 36000), (783446400, 39600),
    (794332800, 36000), (814896000, 39600), (828201600, 36000), (846345600, 39600),
    (859651200, 36000), (877795200, 39600), (891100800, 36000), (909244800, 39600),
    (922550400, 36000), (941299200, 39600), (954000000, 36000), (967305600, 39600),
    (985449600, 36000), (1004198400, 39600), (1017504000, 36000), (1035648000, 39600),
    (1048953600, 36000), (1067097600, 39600), (1080403200, 36000), (1099152000, 39600),
    (1111852800, 36000), (1130601600, 39600), (1143907200, 36000), (1162051200, 39600),
    (1174752000, 36000), (1193500800, 39600), (1207411200, 36000), (1223136000, 39600)]

/-- The changes of Asia/Kolkata. -/
def kolkataChanges : List (Int × Int) := [
    (-3645237208, 21200), (-3155694800, 19270), (-2019705670, 19800), (-891581400, 23400),
    (-872058600, 19800), (-862637400, 23400), (-764145000, 19800)]

/-- The yearly rule of central Europe. -/
def centralEurope : Seasons :=
  { standard := 3600, summer := 7200
    toSummer := { month := 3, week := 5, second := 7200 }
    toStandard := { month := 10, week := 5, second := 10800 } }

/-- The yearly rule of the east of the United States. -/
def easternStates : Seasons :=
  { standard := -18000, summer := -14400
    toSummer := { month := 3, week := 2, second := 7200 }
    toStandard := { month := 11, week := 1, second := 7200 } }

/-- The yearly rule of the south-east of Australia. -/
def southEastAustralia : Seasons :=
  { standard := 36000, summer := 39600
    toSummer := { month := 10, week := 1, second := 7200 }
    toStandard := { month := 4, week := 1, second := 10800 } }

/-- The regions that come with the program. -/
def regions : List Region := [
  { key := "Europe/Warsaw", first := 5040, changes := warsawChanges, seasons := some centralEurope },
  { key := "CET", first := 1050, changes := brusselsChanges, seasons := some centralEurope },
  { key := "America/New_York", first := -17762, changes := newYorkChanges
    seasons := some easternStates },
  { key := "Australia/Sydney", first := 36292, changes := sydneyChanges
    seasons := some southEastAustralia },
  { key := "Asia/Kolkata", first := 21208, changes := kolkataChanges, seasons := none },
  { key := "GMT", first := 0, changes := [], seasons := none },
  { key := "Etc/UTC", first := 0, changes := [], seasons := none },
  { key := "Zulu", first := 0, changes := [], seasons := none }]

end DocBrowser.Calendar
