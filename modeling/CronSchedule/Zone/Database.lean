import CronSchedule.Zone.Yearly

/-!
# An excerpt of the zones by name

Some of the zones of the time zone database, with the changes of their clocks since
1970. Clocks that are set every year are written out to 2099; after the last change
its offset stays in force. A zone that goes by two names is two zones with one
clock. `Zone.ofName?` looks a zone up by its exact name. Wherever a zone is looked up,
the look-up is an argument, and this excerpt is only what a run can be tried with.
-/

namespace CronSchedule

namespace Zone

/-- Changes at these moments that go to `first`, then to `second`, and so on in turn. -/
def alternating (first second : Offset) : List Int → List Change
  | [] => []
  | time :: later => ⟨time, first⟩ :: alternating second first later

/-- The zone `Africa/Juba`. -/
def africaJuba : Zone := ⟨"Africa/Juba", .mk 7200,
    alternating (.mk 10800) (.mk 7200) [
      10360800, 24786000, 41810400, 56322000, 73432800, 87944400, 104882400, 119480400, 136332000,
      151016400, 167781600, 182552400, 199231200, 214174800, 230680800, 245710800, 262735200,
      277246800, 294184800, 308782800, 325634400, 340405200, 357084000, 371941200, 388533600,
      403477200, 419983200, 435013200, 452037600, 466635600, 483487200, 498171600, 947930400,
      1612126800]⟩

/-- The zone `Africa/Monrovia`. -/
def africaMonrovia : Zone := ⟨"Africa/Monrovia", .mk (-2670),
    [⟨63593070, .zero⟩]⟩

/-- The zone `America/Caracas`. -/
def americaCaracas : Zone := ⟨"America/Caracas", .mk (-14400),
    [⟨1197183600, .mk (-16200)⟩, ⟨1462086000, .mk (-14400)⟩]⟩

/-- The zone `America/Havana`. -/
def americaHavana : Zone := ⟨"America/Havana", .mk (-18000),
    alternating (.mk (-14400)) (.mk (-18000)) [
      9954000, 25675200, 41403600, 57729600, 73458000, 87364800, 104907600, 118900800, 136357200,
      150436800, 167806800, 183528000, 199256400, 215582400, 230706000, 247032000, 263365200,
      276667200, 290581200, 308721600, 322030800, 340171200, 358318800, 371620800, 389768400,
      403070400, 421218000, 434520000, 452667600, 466574400, 484117200, 498024000, 511333200,
      529473600, 542782800, 560923200, 574837200, 592372800, 606286800, 623822400, 638946000,
      655876800, 671000400, 687330000, 702450000, 718779600, 733899600, 750229200, 765349200,
      781678800, 796798800, 813128400, 828853200, 844578000, 860302800, 876632400, 891147600,
      909291600, 922597200, 941346000, 954651600, 972795600, 986101200, 1004245200, 1018155600,
      1035694800, 1049605200, 1067144400, 1080450000, 1162098000, 1173589200, 1193547600,
      1205643600, 1224997200, 1236488400, 1256446800, 1268542800, 1288501200, 1300597200,
      1321160400, 1333256400, 1352005200] ++
    YearlyChange.writtenOut (.mk (-18000)) 2013 2099 [
      ⟨3, .nth 2, 0, .mk (-14400)⟩, ⟨11, .nth 1, 3600, .mk (-18000)⟩]⟩

/-- The zone `America/New_York`. -/
def americaNewYork : Zone := ⟨"America/New_York", .mk (-18000),
    alternating (.mk (-14400)) (.mk (-18000)) [
      9961200, 25682400, 41410800, 57736800, 73465200, 89186400, 104914800, 120636000, 126687600,
      152085600, 162370800, 183535200, 199263600, 215589600, 230713200, 247039200, 262767600,
      278488800, 294217200, 309938400, 325666800, 341388000, 357116400, 372837600, 388566000,
      404892000, 420015600, 436341600, 452070000, 467791200, 483519600, 499240800, 514969200,
      530690400, 544604400, 562140000, 576054000, 594194400, 607503600, 625644000, 638953200,
      657093600, 671007600, 688543200, 702457200, 719992800, 733906800, 752047200, 765356400,
      783496800, 796806000, 814946400, 828860400, 846396000, 860310000, 877845600, 891759600,
      909295200, 923209200, 941349600, 954658800, 972799200, 986108400, 1004248800, 1018162800,
      1035698400, 1049612400, 1067148000, 1081062000, 1099202400, 1112511600, 1130652000,
      1143961200, 1162101600] ++
    YearlyChange.writtenOut (.mk (-18000)) 2007 2099 [
      ⟨3, .nth 2, 7200, .mk (-14400)⟩, ⟨11, .nth 1, 7200, .mk (-18000)⟩]⟩

/-- The zone `America/Sao_Paulo`. -/
def americaSaoPaulo : Zone := ⟨"America/Sao_Paulo", .mk (-10800),
    alternating (.mk (-7200)) (.mk (-10800)) [
      499748400, 511236000, 530593200, 540266400, 562129200, 571197600, 592974000, 602042400,
      624423600, 634701600, 656478000, 666756000, 687927600, 697600800, 719982000, 728445600,
      750826800, 761709600, 782276400, 793159200, 813726000, 824004000, 844570800, 856058400,
      876106800, 888717600, 908074800, 919562400, 938919600, 951616800, 970974000, 982461600,
      1003028400, 1013911200, 1036292400, 1045360800, 1066532400, 1076810400, 1099364400,
      1108864800, 1129431600, 1140314400, 1162695600, 1172368800, 1192330800, 1203213600,
      1224385200, 1234663200, 1255834800, 1266717600, 1287284400, 1298167200, 1318734000,
      1330221600, 1350788400, 1361066400, 1382238000, 1392516000, 1413687600, 1424570400,
      1445137200, 1456020000, 1476586800, 1487469600, 1508036400, 1518919200, 1541300400,
      1550368800]⟩

/-- The zone `America/St_Johns`. -/
def americaStJohns : Zone := ⟨"America/St_Johns", .mk (-12600),
    alternating (.mk (-9000)) (.mk (-12600)) [
      9955800, 25677000, 41405400, 57731400, 73459800, 89181000, 104909400, 120630600, 136359000,
      152080200, 167808600, 183529800, 199258200, 215584200, 230707800, 247033800, 262762200,
      278483400, 294211800, 309933000, 325661400, 341382600, 357111000, 372832200, 388560600,
      404886600, 420010200, 436336200, 452064600, 467785800, 483514200, 499235400, 514963800,
      530685000, 544591860, 562127460] ++
    [⟨576041460, .mk (-5400)⟩] ++
    alternating (.mk (-12600)) (.mk (-9000)) [
      594178260, 607491060, 625631460, 638940660, 657081060, 670995060, 688530660, 702444660,
      719980260, 733894260, 752034660, 765343860, 783484260, 796793460, 814933860, 828847860,
      846383460, 860297460, 877833060, 891747060, 909282660, 923196660, 941337060, 954646260,
      972786660, 986095860, 1004236260, 1018150260, 1035685860, 1049599860, 1067135460,
      1081049460, 1099189860, 1112499060, 1130639460, 1143948660, 1162089060, 1173583860,
      1194143460, 1205033460, 1225593060, 1236483060, 1257042660, 1268537460, 1289097060,
      1299987060, 1320553800] ++
    YearlyChange.writtenOut (.mk (-12600)) 2012 2099 [
      ⟨3, .nth 2, 7200, .mk (-9000)⟩, ⟨11, .nth 1, 7200, .mk (-12600)⟩]⟩

/-- The zone `Antarctica/Casey`. -/
def antarcticaCasey : Zone := ⟨"Antarctica/Casey", .mk 28800,
    alternating (.mk 39600) (.mk 28800) [
      1255802400, 1267714800, 1319738400, 1329843600, 1477065600, 1520701200, 1538856000,
      1552752000, 1570129200, 1583596800, 1601740860, 1615640400, 1633190460, 1647090000,
      1664640060, 1678291200]⟩

/-- The zone `Antarctica/Troll`. -/
def antarcticaTroll : Zone := ⟨"Antarctica/Troll", .zero,
    YearlyChange.writtenOut .zero 2005 2099 [
      ⟨3, .last, 3600, .mk 7200⟩, ⟨10, .last, 10800, .zero⟩]⟩

/-- The zone `Antarctica/Vostok`. -/
def antarcticaVostok : Zone := ⟨"Antarctica/Vostok", .mk 25200,
    [⟨760035600, .zero⟩, ⟨783648000, .mk 25200⟩, ⟨1702839600, .mk 18000⟩]⟩

/-- The zone `Asia/Calcutta`. -/
def asiaCalcutta : Zone := ⟨"Asia/Calcutta", .mk 19800, []⟩

/-- The zone `Asia/Kathmandu`. -/
def asiaKathmandu : Zone := ⟨"Asia/Kathmandu", .mk 19800,
    [⟨504901800, .mk 20700⟩]⟩

/-- The zone `Asia/Kolkata`. -/
def asiaKolkata : Zone := ⟨"Asia/Kolkata", .mk 19800, []⟩

/-- The zone `Asia/Pyongyang`. -/
def asiaPyongyang : Zone := ⟨"Asia/Pyongyang", .mk 32400,
    [⟨1439564400, .mk 30600⟩, ⟨1525446000, .mk 32400⟩]⟩

/-- The zone `Asia/Tokyo`. -/
def asiaTokyo : Zone := ⟨"Asia/Tokyo", .mk 32400, []⟩

/-- The zone `Australia/Lord_Howe`. -/
def australiaLordHowe : Zone := ⟨"Australia/Lord_Howe", .mk 36000,
    alternating (.mk 37800) (.mk 41400) [
      352216800, 372785400, 384273000, 404839800, 415722600, 436289400, 447172200, 467739000,
      478621800] ++
    alternating (.mk 39600) (.mk 37800) [
      499188600, 511282800, 530033400, 542732400, 562087800, 574786800, 594142200, 606236400,
      625591800, 636476400, 657041400, 667926000, 688491000, 699375600, 719940600, 731430000,
      751995000, 762879600, 783444600, 794329200, 814894200, 828198000, 846343800, 859647600,
      877793400, 891097200, 909243000, 922546800, 941297400, 953996400, 967303800, 985446000,
      1004196600, 1017500400, 1035646200, 1048950000, 1067095800, 1080399600, 1099150200,
      1111849200, 1130599800, 1143903600, 1162049400, 1174748400, 1193499000] ++
    YearlyChange.writtenOut (.mk 39600) 2008 2099 [
      ⟨4, .nth 1, 7200, .mk 37800⟩, ⟨10, .nth 1, 7200, .mk 39600⟩]⟩

/-- The zone `Etc/GMT+12`. -/
def etcMinusTwelve : Zone := ⟨"Etc/GMT+12", .mk (-43200), []⟩

/-- The zone `Etc/GMT-14`. -/
def etcPlusFourteen : Zone := ⟨"Etc/GMT-14", .mk 50400, []⟩

/-- The zone `Etc/UTC`. -/
def etcUTC : Zone := ⟨"Etc/UTC", .zero, []⟩

/-- The zone `Europe/Berlin`. -/
def europeBerlin : Zone := ⟨"Europe/Berlin", .mk 3600,
    alternating (.mk 7200) (.mk 3600) [
      323830800, 338950800, 354675600, 370400400, 386125200, 401850000, 417574800, 433299600,
      449024400, 465354000, 481078800, 496803600, 512528400, 528253200, 543978000, 559702800,
      575427600, 591152400, 606877200, 622602000, 638326800, 654656400, 670381200, 686106000,
      701830800, 717555600, 733280400, 749005200, 764730000, 780454800, 796179600, 811904400] ++
    YearlyChange.writtenOut (.mk 3600) 1996 2099 [
      ⟨3, .last, 7200, .mk 7200⟩, ⟨10, .last, 10800, .mk 3600⟩]⟩

/-- The zone `Europe/Dublin`. -/
def europeDublin : Zone := ⟨"Europe/Dublin", .mk 3600,
    alternating .zero (.mk 3600) [
      57722400, 69818400, 89172000, 101268000, 120621600, 132717600, 152071200, 164167200,
      183520800, 196221600, 214970400, 227671200, 246420000, 259120800, 278474400, 290570400,
      309924000, 322020000, 341373600, 354675600, 372819600, 386125200, 404269200, 417574800,
      435718800, 449024400, 467773200, 481078800, 499222800, 512528400, 530672400, 543978000,
      562122000, 575427600, 593571600, 606877200, 625626000, 638326800, 657075600, 670381200,
      688525200, 701830800, 719974800, 733280400, 751424400, 764730000, 782874000, 796179600,
      814323600] ++
    YearlyChange.writtenOut .zero 1996 2099 [
      ⟨3, .last, 3600, .mk 3600⟩, ⟨10, .last, 7200, .zero⟩]⟩

/-- The zone `Europe/London`, which keeps the clock of `Europe/Dublin`. -/
def europeLondon : Zone := { europeDublin with name := "Europe/London" }

/-- The zone `GMT`. -/
def gmt : Zone := ⟨"GMT", .zero, []⟩

/-- The zone `Pacific/Apia`. -/
def pacificApia : Zone := ⟨"Pacific/Apia", .mk (-39600),
    [⟨1285498800, .mk (-36000)⟩, ⟨1301752800, .mk (-39600)⟩, ⟨1316872800, .mk (-36000)⟩] ++
    alternating (.mk 50400) (.mk 46800) [
      1325239200, 1333202400, 1348927200, 1365256800, 1380376800, 1396706400, 1411826400,
      1428156000, 1443276000, 1459605600, 1474725600, 1491055200, 1506175200, 1522504800,
      1538229600, 1554559200, 1569679200, 1586008800, 1601128800, 1617458400]⟩

/-- The zone `Pacific/Chatham`. -/
def pacificChatham : Zone := ⟨"Pacific/Chatham", .mk 45900,
    alternating (.mk 49500) (.mk 45900) [
      152632800, 162309600, 183477600, 194968800, 215532000, 226418400, 246981600, 257868000,
      278431200, 289317600, 309880800, 320767200, 341330400, 352216800, 372780000, 384271200,
      404834400, 415720800, 436284000, 447170400, 467733600, 478620000, 499183200, 510069600,
      530632800, 541519200, 562082400, 573573600, 594136800, 605023200, 623772000, 637682400,
      655221600, 669132000, 686671200, 700581600, 718120800, 732636000, 749570400, 764085600,
      781020000, 795535200, 812469600, 826984800, 844524000, 858434400, 875973600, 889884000,
      907423200, 921938400, 938872800, 953388000, 970322400, 984837600, 1002376800, 1016287200,
      1033826400, 1047736800, 1065276000, 1079791200, 1096725600, 1111240800, 1128175200,
      1142690400, 1159624800, 1174140000, 1191074400] ++
    YearlyChange.writtenOut (.mk 49500) 2008 2099 [
      ⟨4, .nth 1, 13500, .mk 45900⟩, ⟨9, .last, 9900, .mk 49500⟩]⟩

/-- The zone `Pacific/Kiritimati`. -/
def pacificKiritimati : Zone := ⟨"Pacific/Kiritimati", .mk (-38400),
    [⟨307622400, .mk (-36000)⟩, ⟨788868000, .mk 50400⟩]⟩

/-- The zone `Pacific/Kwajalein`. -/
def pacificKwajalein : Zone := ⟨"Pacific/Kwajalein", .mk (-43200),
    [⟨745934400, .mk 43200⟩]⟩

/-- The zone `UCT`. -/
def uct : Zone := ⟨"UCT", .zero, []⟩

/-- The zone `US/Eastern`, which keeps the clock of `America/New_York`. -/
def usEastern : Zone := { americaNewYork with name := "US/Eastern" }

/-- The zone `Zulu`. -/
def zulu : Zone := ⟨"Zulu", .zero, []⟩

/-- The zone `EST5EDT`, which keeps the clock of `America/New_York`. -/
def est5edt : Zone := { americaNewYork with name := "EST5EDT" }

/-- The zone `Europe/Kyiv`. -/
def europeKyiv : Zone := ⟨"Europe/Kyiv", .mk 10800,
    alternating (.mk 14400) (.mk 10800) [
      354920400, 370728000, 386456400, 402264000, 417992400, 433800000, 449614800, 465346800,
      481071600, 496796400, 512521200, 528246000, 543970800, 559695600, 575420400, 591145200,
      606870000, 622594800, 638319600, 646783200] ++
    [⟨686102400, .mk 7200⟩] ++
    alternating (.mk 10800) (.mk 7200) [
      701827200, 717552000, 733276800, 749001600, 764726400, 780451200, 796176000, 811900800,
      828230400, 846378000] ++
    YearlyChange.writtenOut (.mk 7200) 1997 2099 [
      ⟨3, .last, 10800, .mk 10800⟩, ⟨10, .last, 14400, .mk 7200⟩]⟩

/-- The zone `Europe/Paris`. -/
def europeParis : Zone := ⟨"Europe/Paris", .mk 3600,
    alternating (.mk 7200) (.mk 3600) [
      196819200, 212540400, 228877200, 243997200, 260326800, 276051600, 291776400, 307501200,
      323830800, 338950800, 354675600, 370400400, 386125200, 401850000, 417574800, 433299600,
      449024400, 465354000, 481078800, 496803600, 512528400, 528253200, 543978000, 559702800,
      575427600, 591152400, 606877200, 622602000, 638326800, 654656400, 670381200, 686106000,
      701830800, 717555600, 733280400, 749005200, 764730000, 780454800, 796179600, 811904400] ++
    YearlyChange.writtenOut (.mk 3600) 1996 2099 [
      ⟨3, .last, 7200, .mk 7200⟩, ⟨10, .last, 10800, .mk 3600⟩]⟩

/-- The zones of the excerpt. -/
def all : List Zone := [
    africaJuba, africaMonrovia, americaCaracas, americaHavana, americaNewYork, americaSaoPaulo,
    americaStJohns, antarcticaCasey, antarcticaTroll, antarcticaVostok, asiaCalcutta,
    asiaKathmandu, asiaKolkata, asiaPyongyang, asiaTokyo, australiaLordHowe, est5edt,
    etcMinusTwelve, etcPlusFourteen, etcUTC, europeBerlin, europeDublin, europeKyiv, europeLondon,
    europeParis, gmt, pacificApia, pacificChatham, pacificKiritimati, pacificKwajalein, uct,
    usEastern, utc, zulu]

/-- The zone of the excerpt that has a name. The spelling must be exact, upper and lower
case included. -/
def ofName? (name : String) : Option Zone :=
  all.find? (·.name == name)

end Zone

end CronSchedule
