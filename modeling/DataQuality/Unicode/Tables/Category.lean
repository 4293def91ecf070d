/-!
# Table of general categories

The general category of every assigned code point, as runs `gap, span, category`: the category
is the position in the order `Lu Ll Lt Lm Lo Mn Mc Me Nd Nl No Pc Pd Ps Pe Pi Pf Po Sm Sc Sk So
Zs Zl Zp Cc Cf Cs Co`.  Code points outside every run are unassigned (`Cn`).  The data is that of
Unicode 16.0.
-/

namespace DataQuality.Unicode.Tables

/-- General categories by runs of code points. -/
def generalCategory : String := "0^T00Q02K00M02K00F00G00K00L00K00D01K09801K02L01K0T000F00K00G00N00C00N0T100F00L00G00L0c0T00Q00K03M00P
00K00N00P00400H00L00V00P00N00P00L01B00N00101K00N00B00400J02B00K0Q000L0600R100L0710000010000010000010
0000100000100000100000100000100000100000100000100000100000100000100000100000100000100000100000100000
1000001000001000001000001000001000001000001000011000001000001000001000001000001000001000001000011000
0010000010000010000010000010000010000010000010000010000010000010000010000010000010000010000010000010
0000100000100000100000100000100000101000100000100002101000100000101000102001103000101000102002101000
1010001000001000001010001000011000001010001020001000001010011004000021034000002001000002001000002001
0000010000010000010000010000010000010000010000110000010000010000010000010000010000010000010000010000
1100000200100000102000100000100000100000100000100000100000100000100000100000100000100000100000100000
1000001000001000001000001000001000001000001000001000001000001000001000001000001000001000001000061010
0010100110000010300010000010000010000010000d410040V10K303N0C30FN04306N00300N0030JN0fH500000100000100
300N00000120302100K00041N00000K0201001100010J01800c2100001102002100000100000100000100000100000100000
100000100000100000100000100000100004100000100L0000010100110cL00cH10000010000010000010000010000010000
0100000100000100000100000100000100000100000100000100000100000100000100P04501700000100000100000100000
1000001000001000001000001000001000001000001000001000001000001000001000001000001000001000001000001000
0010000010000010000010000010000010000010100010000010000010000010000010000010000110000010000010000010
0000100000100000100000100000100000100000100000100000100000100000100000100000100000100000100000100000
1000001000001000001000001000001000001000001000001000001000001000001000001000001000001000001000001000
0010000010000010000010000010000010000010000010000010000010000010000011c5020305K0c8100K00D21P00M1cD50
0D00500K01500K01500K0058V443401KC5V02L01K00M01K01P0B500K00V02K0^40030940N509803K0140050f2400K0040650
0V00P05501301500P03501409802401P0040FK10V0040050Z40V52dS40B5004G980c0408501300P02K00320501M0P4035003
0850030250030452GK1S402520K1B45R400N05411V5850c840030R500V0^50060cP400500600500402607503600501600406
509401501K09800K0030G40050161742142P416410433420500402603521621600500480641412401529801401M05B00P00M
00400K0052150061544142P416411411411420512601541522530573410479801502400500KB150061841241P41641141442
05004026045115006116005204H1401529800K00M7040551050161742142P416411414420500400600500603521621600571
500641412401529800P00405BB050041543241343141041143143243C4416005016326126005204606G9802B05P00M00P505
0260050741241Q41H420500402503612513571512420421401529870K06B00P00400501600K0741241Q41941442050040060
05046105016116015716614114015298114006D150160841241c8401500402603512612600500400P42400606B0240152980
8B00P0541050161K43R418410426430542602510517669821600KDcH400501406540M05400307500K09801Kc5141041441R4
104194005014085004244103165198234c00402P0GK00P00K02P01505P09809B00P00500P00500P00500F00G00F00G016074
1c344F500604500K0150440B51c3517P00505P11P04K03P01Kc5cB401603500605500601501601500409805K054016015034
0250040260140660240350D400501601505600500400609802600501P0c501005002cB100K0030210n841342641041342c84
1342c041342641041342G41cS41342d2422508K0MB3H409P6dP025120D0zC400P00K0J400Q0T400F00G3dB402K0290747K40
250069L401500601K9K4015DD4124115DcM40150060650760050160B502K00302K00M00400529869B65K00D03K02500V0050
986c240030cN47440150c140050045d54B~412503601502641600505602540P31K0980Z4244CcC44T469800B3c1P0Q401501
600521K0cN400600500606510500600501607505609520509869866K00305K2F50070H5cK350060cG4005006045006005046
00501607411K09806K09P08508P02K0150060Z40060350160150060250140980cC400500601502600500602501683K0c3407
607501601534K0983240980Z405301K0810000015cB022007K82500K0D50060650340050540050140060150045cC10c~30D1
0030c110c430c^50000010000010000010000010000010000010000010000010000010000010000010000010000010000010
0000100000100000100000100000100000100000100000100000100000100000100000100000100000100000100000100000
1000001000001000001000001000001000001000001000001000001000001000001000001000001000001000001000001000
0010000010000010000010000010000010000010000010000010000010000010000010000010000010000010000010000010
0000100000100000100000100000100000100000100000100000100000100008100000100000100000100000100000100000
1000001000001000001000001000001000001000001000001000001000001000001000001000001000001000001000001000
0010000010000010000010000010000010000010000010000010000010000010000010000010000010000010000010000010
0000100000100000100000100000100000100000100000100000100008107005125027107007107005125027110010010010
00710700F127107207107207107204111103000200N00102N02111103000202N03121103012N07104002N22111103000201N
1BQ04V05D01K00H00J00F01H00J00F00H07K00R00S04V00Q08K00H00J03K01C02K00L00F00G0BK00L00K00C09K00Q04V19V0
0B00325B02L00F00G00309B02L00F00G1D33c0MHD50370050270C5H1P00003P00001P00102001102000100P00001P00L0400
5P00000P00000P00000P03000P00103000103400101P01101004L00003100P00L01P00100P0HB0c2900000103900B01P44L0
4P01L03P00L01P00L01P00L06P00L0~P01L01P00L00P00L0~P0lCL07P00F00G00F00G0MP01L06P00F00G0dJP00L0ZP0SL0c7
P05L0d7PQBPPcWB0dFP0PB0hQP00L08P00L0cPP07L0fGP00L0kRP00F00G00F00G00F00G00F00G00F00G00F00G00F00G0ZB0c
CP04L00F00G0~L00F00G00F00G00F00G00F00G00F00G0HL0k^P0g2L00F00G00F00G00F00G00F00G00F00G00F00G00F00G00F
00G00F00G00F00G00F00G0c~L00F00G00F00G0^L00F00G0l1L0cHP0NL01P05L0c6P2^P1f8P0cH00cH1000001020011000001
0000010000010300010000110000510130200010000010000010000010000010000010000010000010000010000010000010
0000100000100000100000100000100000100000100000100000100000100000100000100000100000100000100000100000
1000001000001000001000001000001000001000001000001000001000001000001000001000001000001000001000001000
00100000100000100000100000100001105P00000100000102500000153K00B01K0c511015012cR470300KG050Q496416416
41641641641641641^501K00H00J00H00J02K00H00J00K00H00J08K00D01K00D00K00H00J01K00H00J00F00G00F00G00F00G
00F00G04K00309K01D03K00D00K00F0DK01P02K00F00G00F00G00F00G00F00G00Dc2TP1dSPDjPPVHP00Q02K00P0030040090
0F00G00F00G00F00G00F00G00F00G01P00F00G00F00G00F00G00F00G00D00F01G00P08903501600D04301P02900300400K01
P1dP421501N01300400D0dT400K0230045cB41dZ411P03B09P0^40c5P90P0H40~P19B0ZP07B00P0GB0^P09B0c6P0GB0m^P0j
r^40c^P0!vN40030cfQ43cQP9c7405301K0lC400302K0H4098014N0000100000100000100000100000100000100000100000
1000001000001000001000001000001000001000001000001000001000001000001000001000001000001000001004005027
00K09500K0030000010000010000010000010000010000010000010000010000010000010000010000010000010000010130
150d5409901505K8QN08301N0000010000010000010000010000010000010000210000010000010000010000010000010000
0100000100000100000100000100000100000100000100000100000100000100000100000100000100000100000100000100
0001000001000001000001000001000001000001000001000001003071000001000001010001000001000001000001000001
00301N0000010000010040000010000210000010000010000010000010000010000010000010000010000010000010400010
40001000001000001000001000001000001000001000001030001000001010001200001101101000001000001000001000P2
30000010040130010640050240050340050Q401601500603P00535B01P00M00P6cM403K8160cK40H601581K0986K505402K0
0400K0140050980W407501K0Q40B5016C0K0X43250060cG40050160350160150260DK10309841K0440050030840980441c84
05501601501601592400507400500629823K0H400305402P0040060050060cK4005004025014015044015004005004S14003
01K0B400601501601K004013006005B542542549641641cB100N03308100301N4dH10c2401600501600501600K0060052986
n=34DQ44cJ44c?^W0jk^X0pF42f94c661D4150400509400L0D41441041141141fC40JNJpB400G00F0HP0c^42cP470Pc0C400
M02P0H506K00F00G00K6H500K01D01C00F00G00F00G00F00G00F00G00F00G00F00G00F00G00F00G01K00F00G03K02C02K13K
00D00F00G00F00G00F00G02K00L00D02L10K00M01K4441g6420V12K00M02K00F00G00K00L00K00D01K09801K02L01K0T000F
00K00G00N00C00N0T100F00L00G00L00F00G00K00F00G01K0940030cD40130~435425425422431M00L00N00P01M10P03L01P
B2V01P2C41T41L41141G42F4c2fV452K4cDB38P0cN903B0JP01B02P1DP30PcHcDP005g2X43cJ4H050VB4^403B9M400907400
95c540455Z410K0c3447400K049cBc700c710dF42986c304c314c748cM4C0K0B01G01601101B11G11611113cM4DmQ49P4B74
S531c93183d5542041cC41143042Q410K07B0Q401P06B0~488BcJL411454B0P405B30K0T450Kd0cR441B0140HB2cFB004025
1155350341241X422540508B78K7X401B00K0X402Bc07400P0W401544B06K9cP436K0P427B0L457B0K473KD6BdJd84cRcL0F
cL175B0c340358986980340030040P034500D0030P181LjJ~B1c9411500D214J24cR350X409B0048P40B503B04KQK403503K
c6N406BNQ49060050060cN40G506K4MB0980050140150049250060cD402603501601501K00V03K005B0V2S47986250c34045
00607519803K0040160048c2400501K0049150060cH402608501603403K03500K00600509800400K00402K1MBCK41S402602
501600500601505K005014005c~641041341G419400K6cG40050260755986150161742142P41641141441150040160050362
16226204606544016265345C941042041c5410402605510620613611600500600500400500401K11K815ZcN4026075016025
00600503404K09801K10K005024~cH402605500600503601500601501400K004898h6cG40260352360150060150QK034015c
2cH402607501600500601502K004C986DKMcB400500600501605500600500400K6986M8XV422501603500604549801B02K00
P064hTcC402608500601500Kf4^00^109808BD742042741141R405611621500600500400600400600502K998d6742c640260
3521503600500400K004006W040950c7405500600403507K0058040550160250cF40D500601502K00404KFd8479KhQc0400K
G986841c4400606515500600500404KB980LB31K0Z42P5106065006015006015d9641141c540553051151650040058986541
141^4046115116005006005004798mQL401501601K7150040060D41c140160453160050060050DK098005dP04HNB07P03M0J
PF0K0<T4f6fG914KCj34dxDf0401KFccH40HV0050540G5Bf<V45x64j%TZ40C5026025098c&6wS47~419841K0dG41986Z4245
00KBcH406504K03P03300K00PB9816B1N45L4rJ230c7401302K098j6^00^10QB03Kf5dB44050040cQ67350D3d01300K00300
5C16Gh?R48cjP4c994l*7331631131m24H04Z24204G348qC4dl4fB45D438479420P01500K03Vf:XkHP0986rMPdDcF52Q59fM
PcXkPPBc6P2cWP01602502P05607V07501P0650ZP0350cXPPd1P02500PfVMBDMBDdQP9SBg7T00T10T00611K10T00T1000110
2002102301700311011611B10T00T10101302701601T10101301401003601T10T00T10T00T10T00T10T00T10T00T10T00W12
S000L0S100L0510S000L0S100L0510S000L0S100L0510S000L0S100L0510S000L0S100L0510000012cK80t^P0cQ503P0cK50
7P0050FP00501P04KH451G5cdJ910040M1651jP651J52651151455cZ3c105fJcD436506329840400Pn0Z4005KcC403509850
MsJV4003035098jQZ401500409840Kt0641341141G41j4428B065c9c100c1106500349841K+KcVB00P02B00M03BdDcDB00P0
GBj2341V41141042041941341041046044041041041241141042041041041041041141042341641341341041941J45241441
J4cN1LlGcCP4f3PDGP2GP1GP1c4PBDB0h0PcSXPFcCP48P71PG5PgVkVP04N0&RP4JP3DP3fQP4d~P6CP40PHCP4cRP89P6c7P8Z
P2CP41Pc~nMPDFP2DP39P5cRP7GP2BP68P7gLP1dWP098cb6cm&^4c0gcT46jZ42h!14GkmJ4HzF4dr2vZ4ct2g:B45gd^4%*dK0
V~d^Vg0kH5c?vJc??ZX2c??ZX"

end DataQuality.Unicode.Tables
